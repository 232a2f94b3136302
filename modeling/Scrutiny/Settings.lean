import Scrutiny.Text.Words

/-! The parameters of a review.

`Settings` holds all of them, with their defaults. A `Change` sets one; changes are applied in order, so the
last one of a parameter counts. -/
namespace Scrutiny

structure Settings where
  readmeFilename : String := "README.md"
  allowedMaxPep8Violations : Int := 5
  maxComplexity : Int := 7
  minimumNameLength : Int := 2
  minPercentOfAnotherLanguage : Rat := 30
  lastCommitsToCheckAmount : Int := 5
  tabSize : Int := 4
  functionsWithDocstringsPercentLimit : Rat := 80
  maxPep8LineLength : Int := 100
  maxNumberOfLines : Int := 200
  maxIndentationLevel : Int := 4
  maxNumOfPyFiles : Int := 100
  directoriesToSkip : Words := .list ["build", "dist", ".git"]
  badVariableNames : Words := .list
    ["list", "lists", "input", "cnt", "data", "name", "load", "value", "object", "file", "result",
     "item", "num", "info", "n"]
  badCommitMessages : Words := .list
    ["win", "commit", "commit#1", "fix", "minor edits", "update", "done", "first commit", "start",
     "refactor", "!", "bug fix", "corrected", "add files via upload", "test", "fixed",
     "minor bugfix", "minor bugfixes", "finished", "fixes", ""]
  dataDirectories : Words := .list [".idea", ".vscode", "__pycache__"]
  validShortVariableNames : Words := .list ["a", "b", "c", "x", "y", "x1", "x2", "y1", "y2", "_"]
  validCallsWithConstants : Words := .list
    ["pow", "exit", "round", "range", "enumerate", "time", "itemgetter", "get", "group", "replace",
     "combinations", "seek"]
  validNonSnakeCaseLeftHandValues : Words := .list ["Session", "Base", "User", "Order", "Address"]
  validNonSnakeCaseRightHandValues : Words := .list ["Base"]
  functionsAllowedToHaveExitCalls : Words := .list ["main"]
  pep8PathsToIgnore : Words := .list ["/migrations/", "/alembic/", "manage.py"]
  encodingDeclarationsPathsToIgnore : Words := .list ["/migrations/"]
  localImportsPathsToIgnore : Words := .list ["manage.py"]
  localVarNamedAsGlobalPathsToIgnore : Words := .list ["settings.py"]
  badVariablesPathsToIgnore : Words := .list ["apps.py"]
  extraDocstringsPathsToIgnore : Words := .list ["/migrations/", "/alembic/"]
  deepNestingPathsToIgnore : Words := .list
    ["/migrations/", "/alembic/", "manage.py", "settings.py"]

/-- The parameters that are whole numbers. -/
inductive Amount where
  | allowedMaxPep8Violations | maxComplexity | minimumNameLength | lastCommitsToCheckAmount | tabSize
  | maxPep8LineLength | maxNumberOfLines | maxIndentationLevel | maxNumOfPyFiles
  deriving DecidableEq, Repr

/-- The parameters that are percentages. -/
inductive Percentage where
  | minPercentOfAnotherLanguage | functionsWithDocstringsPercentLimit
  deriving DecidableEq, Repr

/-- The parameters that are collections of words. -/
inductive Vocabulary where
  | directoriesToSkip | badVariableNames | badCommitMessages | dataDirectories
  | validShortVariableNames | validCallsWithConstants | validNonSnakeCaseLeftHandValues
  | validNonSnakeCaseRightHandValues | functionsAllowedToHaveExitCalls | pep8PathsToIgnore
  | encodingDeclarationsPathsToIgnore | localImportsPathsToIgnore
  | localVarNamedAsGlobalPathsToIgnore | badVariablesPathsToIgnore | extraDocstringsPathsToIgnore
  | deepNestingPathsToIgnore
  deriving DecidableEq, Repr

inductive Change where
  | readme (name : String)
  | amount (parameter : Amount) (value : Int)
  | percentage (parameter : Percentage) (value : Rat)
  | vocabulary (parameter : Vocabulary) (words : Words)

namespace Amount

def key : Amount → String
  | allowedMaxPep8Violations => "allowed_max_pep8_violations"
  | maxComplexity => "max_complexity"
  | minimumNameLength => "minimum_name_length"
  | lastCommitsToCheckAmount => "last_commits_to_check_amount"
  | tabSize => "tab_size"
  | maxPep8LineLength => "max_pep8_line_length"
  | maxNumberOfLines => "max_number_of_lines"
  | maxIndentationLevel => "max_indentation_level"
  | maxNumOfPyFiles => "max_num_of_py_files"

def all : List Amount :=
  [allowedMaxPep8Violations, maxComplexity, minimumNameLength, lastCommitsToCheckAmount, tabSize,
   maxPep8LineLength, maxNumberOfLines, maxIndentationLevel, maxNumOfPyFiles]

end Amount

namespace Percentage

def key : Percentage → String
  | minPercentOfAnotherLanguage => "min_percent_of_another_language"
  | functionsWithDocstringsPercentLimit => "functions_with_docstrings_percent_limit"

def all : List Percentage :=
  [minPercentOfAnotherLanguage, functionsWithDocstringsPercentLimit]

end Percentage

namespace Vocabulary

def key : Vocabulary → String
  | directoriesToSkip => "directories_to_skip"
  | badVariableNames => "bad_variable_names"
  | badCommitMessages => "bad_commit_messages"
  | dataDirectories => "data_directories"
  | validShortVariableNames => "valid_short_variable_names"
  | validCallsWithConstants => "valid_calls_with_constants"
  | validNonSnakeCaseLeftHandValues => "valid_non_snake_case_left_hand_values"
  | validNonSnakeCaseRightHandValues => "valid_non_snake_case_right_hand_values"
  | functionsAllowedToHaveExitCalls => "functions_allowed_to_have_exit_calls"
  | pep8PathsToIgnore => "pep8_paths_to_ignore"
  | encodingDeclarationsPathsToIgnore => "encoding_declarations_paths_to_ignore"
  | localImportsPathsToIgnore => "local_imports_paths_to_ignore"
  | localVarNamedAsGlobalPathsToIgnore => "local_var_named_as_global_paths_to_ignore"
  | badVariablesPathsToIgnore => "bad_variables_paths_to_ignore"
  | extraDocstringsPathsToIgnore => "extra_dockstrings_paths_to_ignore"
  | deepNestingPathsToIgnore => "deep_nesting_paths_to_ignore"

def all : List Vocabulary :=
  [directoriesToSkip, badVariableNames, badCommitMessages, dataDirectories, validShortVariableNames,
   validCallsWithConstants, validNonSnakeCaseLeftHandValues, validNonSnakeCaseRightHandValues,
   functionsAllowedToHaveExitCalls, pep8PathsToIgnore, encodingDeclarationsPathsToIgnore,
   localImportsPathsToIgnore, localVarNamedAsGlobalPathsToIgnore, badVariablesPathsToIgnore,
   extraDocstringsPathsToIgnore, deepNestingPathsToIgnore]

end Vocabulary

def readmeKey : String := "readme_filename"

/-- The name of the parameter that a change sets. -/
def Change.key : Change → String
  | readme _ => readmeKey
  | amount parameter _ => parameter.key
  | percentage parameter _ => parameter.key
  | vocabulary parameter _ => parameter.key

namespace Settings

def setAmount (s : Settings) (value : Int) : Amount → Settings
  | .allowedMaxPep8Violations => { s with allowedMaxPep8Violations := value }
  | .maxComplexity => { s with maxComplexity := value }
  | .minimumNameLength => { s with minimumNameLength := value }
  | .lastCommitsToCheckAmount => { s with lastCommitsToCheckAmount := value }
  | .tabSize => { s with tabSize := value }
  | .maxPep8LineLength => { s with maxPep8LineLength := value }
  | .maxNumberOfLines => { s with maxNumberOfLines := value }
  | .maxIndentationLevel => { s with maxIndentationLevel := value }
  | .maxNumOfPyFiles => { s with maxNumOfPyFiles := value }

def setPercentage (s : Settings) (value : Rat) : Percentage → Settings
  | .minPercentOfAnotherLanguage => { s with minPercentOfAnotherLanguage := value }
  | .functionsWithDocstringsPercentLimit => { s with functionsWithDocstringsPercentLimit := value }

def setVocabulary (s : Settings) (words : Words) : Vocabulary → Settings
  | .directoriesToSkip => { s with directoriesToSkip := words }
  | .badVariableNames => { s with badVariableNames := words }
  | .badCommitMessages => { s with badCommitMessages := words }
  | .dataDirectories => { s with dataDirectories := words }
  | .validShortVariableNames => { s with validShortVariableNames := words }
  | .validCallsWithConstants => { s with validCallsWithConstants := words }
  | .validNonSnakeCaseLeftHandValues => { s with validNonSnakeCaseLeftHandValues := words }
  | .validNonSnakeCaseRightHandValues => { s with validNonSnakeCaseRightHandValues := words }
  | .functionsAllowedToHaveExitCalls => { s with functionsAllowedToHaveExitCalls := words }
  | .pep8PathsToIgnore => { s with pep8PathsToIgnore := words }
  | .encodingDeclarationsPathsToIgnore => { s with encodingDeclarationsPathsToIgnore := words }
  | .localImportsPathsToIgnore => { s with localImportsPathsToIgnore := words }
  | .localVarNamedAsGlobalPathsToIgnore => { s with localVarNamedAsGlobalPathsToIgnore := words }
  | .badVariablesPathsToIgnore => { s with badVariablesPathsToIgnore := words }
  | .extraDocstringsPathsToIgnore => { s with extraDocstringsPathsToIgnore := words }
  | .deepNestingPathsToIgnore => { s with deepNestingPathsToIgnore := words }

def apply (s : Settings) : Change → Settings
  | .readme name => { s with readmeFilename := name }
  | .amount parameter value => s.setAmount value parameter
  | .percentage parameter value => s.setPercentage value parameter
  | .vocabulary parameter words => s.setVocabulary words parameter

/-- The defaults with changes applied in order. -/
def ofChanges (changes : List Change) : Settings :=
  changes.foldl apply {}

end Settings
end Scrutiny
