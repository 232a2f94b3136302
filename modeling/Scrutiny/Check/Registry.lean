import Scrutiny.Check.Commits
import Scrutiny.Check.Groups
import Scrutiny.Check.Idioms
import Scrutiny.Check.Imports
import Scrutiny.Check.Layout
import Scrutiny.Check.Naming
import Scrutiny.Check.Preflight
import Scrutiny.Check.Readme

/-! The checks by name, and the groups they are run in unless others are asked for.

The two checks of requirements are those that the runtime supplies. -/
namespace Scrutiny.Registry

open Check (onContext onProject)

def preflight : Groups :=
  [⟨"repo_size", [onContext "repo_is_too_large" Preflight.tooLarge]⟩,
   ⟨"encoding", [onContext "file_not_in_utf8" Preflight.notUtf8]⟩,
   ⟨"bom", [onContext "file_has_bom" Preflight.marked]⟩,
   ⟨"file_size", [onContext "file_too_long" Preflight.tooLong]⟩]

def requirementsNotFrozen : Check :=
  onContext "requirements_not_frozen" fun c => c.runtime.requirements.notFrozen c.toScene

def requirementsFromStandard : Check :=
  onContext "has_libs_from_stdlib_in_requirements" fun c => c.runtime.requirements.fromStandard c.toScene

/-- The checks that the runtime supplies. -/
def supplied : List Check :=
  [requirementsNotFrozen, requirementsFromStandard]

/-- The checks of the last group. -/
def general : List Check :=
  [onProject "data_in_repo" Layout.trackedData,
   onProject "too_many_pep8_violations" Idioms.styleFaults,
   onProject "readme_not_changed" Readme.unchanged,
   onProject "camel_case_variable_name" Naming.camelCase,
   onProject "too_difficult_by_mccabe" Layout.tangled,
   onProject "encoding_declaration" Layout.encodingDeclaration,
   onProject "star_import" Imports.star,
   onProject "local_import" Imports.inner,
   onProject "has_local_var_named_as_global" Naming.localConstants,
   onProject "has_variables_from_blacklist" Naming.blacklisted,
   onProject "short_variable_name" Naming.short,
   onProject "range_starting_from_zero" Idioms.rangeFromZero,
   onProject "tabs_used_for_indentation" Layout.tabs,
   onProject "except_block_class_too_broad" Idioms.broadExcept,
   requirementsNotFrozen,
   onProject "variable_assignment_with_lambda" Idioms.namedLambda,
   onProject "call_with_constants" Idioms.numberInCall,
   onProject "bilingual_readme" Readme.bilingual,
   onProject "urls_with_hardcoded_get_parameters" Idioms.queryAddress,
   onProject "nonpythonic_empty_list_validation" Idioms.lengthTest,
   onProject "extra_docstrings" Idioms.docstrings,
   onProject "exit_call_in_function" Idioms.exitCall,
   requirementsFromStandard,
   onProject "line_ends_with_semicolon" Layout.semicolons,
   onProject "validates_response_status_by_comparing_to_200" Idioms.statusComparison,
   onProject "mutable_default_arguments" Idioms.mutableDefault,
   onProject "slice_starts_from_zero" Idioms.sliceFromZero,
   onProject "casts_input_result_to_str" Idioms.textOfInput,
   onProject "return_with_parenthesis" Layout.parenthesizedReturn,
   onProject "code_too_nested" Layout.nested,
   onProject "string_literal_sum" Idioms.addedTexts,
   onProject "has_pdb_breakpoint" Imports.debugger,
   onProject "has_multiple_imports_on_same_line" Imports.several]

def errors : Groups :=
  [⟨"commits", [onProject "no_more_commits_than_origin" Commits.noMoreThanBefore]⟩,
   ⟨"readme", [onProject "no_readme_file" Readme.absent]⟩,
   ⟨"syntax", [onProject "syntax_error" Layout.unparsed]⟩,
   ⟨"general", general⟩]

def warnings : Groups :=
  [⟨"commits", [onProject "commit_messages_from_blacklist" Commits.emptyMessage]⟩,
   ⟨"syntax",
    [onProject "indent_not_multiple_of_tab_size" Layout.misaligned,
     onProject "variables_that_shadow_default_names" Naming.shadowing]⟩]

/-- All checks. -/
def all : List Check :=
  (preflight ++ errors ++ warnings).flatMap (·.checks)

/-- Whether a check is supplied by the runtime. -/
def isSupplied (name : String) : Bool :=
  (supplied.map (·.name)).contains name

/-- The checks that are not supplied from outside. -/
def ownChecks : List Check :=
  all.filter (!isSupplied ·.name)

def check? (name : String) : Option Check :=
  all.find? (·.name = name)

/-- Whether a check needs no loaded project. -/
def isPreflight (name : String) : Bool :=
  preflight.checkNames.contains name

end Scrutiny.Registry
