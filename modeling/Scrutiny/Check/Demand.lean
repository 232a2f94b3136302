import Scrutiny.Check.Registry

/-! What checks have to be given.

A check asks for a project, or for the path of one, and for the parameters that it judges by. In a review all of them
are there. A check that is run on its own, with what is given by name, fails when something is missing. -/
namespace Scrutiny.Check

/-- The name by which the path of a project is given. -/
def pathKey : String := "project_path"

/-- The name by which the path of the project it started from is given. -/
def basePathKey : String := "original_project_path"

/-- The parameters that a check judges by, in the order in which it asks for them. -/
def parameters : List (String × List String) :=
  [("repo_is_too_large", [Vocabulary.directoriesToSkip.key, Amount.maxNumOfPyFiles.key]),
   ("file_not_in_utf8", [Vocabulary.directoriesToSkip.key]),
   ("file_has_bom", [Vocabulary.directoriesToSkip.key]),
   ("file_too_long", [Amount.maxNumberOfLines.key, Vocabulary.directoriesToSkip.key]),
   ("too_difficult_by_mccabe", [Amount.maxComplexity.key]),
   ("code_too_nested",
    [Amount.tabSize.key, Amount.maxIndentationLevel.key, Vocabulary.deepNestingPathsToIgnore.key]),
   ("extra_docstrings",
    [Vocabulary.extraDocstringsPathsToIgnore.key, Percentage.functionsWithDocstringsPercentLimit.key]),
   ("commit_messages_from_blacklist",
    [Vocabulary.badCommitMessages.key, Amount.lastCommitsToCheckAmount.key]),
   ("tabs_used_for_indentation", [Vocabulary.directoriesToSkip.key]),
   ("encoding_declaration", [Vocabulary.encodingDeclarationsPathsToIgnore.key]),
   ("data_in_repo", [Vocabulary.dataDirectories.key]),
   ("local_import", [Vocabulary.localImportsPathsToIgnore.key]),
   ("has_variables_from_blacklist",
    [Vocabulary.badVariablesPathsToIgnore.key, Vocabulary.badVariableNames.key]),
   ("has_local_var_named_as_global",
    [Vocabulary.localVarNamedAsGlobalPathsToIgnore.key, Amount.maxIndentationLevel.key]),
   ("short_variable_name", [Amount.minimumNameLength.key, Vocabulary.validShortVariableNames.key]),
   ("camel_case_variable_name",
    [Vocabulary.validNonSnakeCaseLeftHandValues.key, Vocabulary.validNonSnakeCaseRightHandValues.key]),
   ("too_many_pep8_violations",
    [Amount.allowedMaxPep8Violations.key, Amount.maxPep8LineLength.key, Vocabulary.pep8PathsToIgnore.key]),
   ("exit_call_in_function", [Vocabulary.functionsAllowedToHaveExitCalls.key]),
   ("call_with_constants", [Vocabulary.validCallsWithConstants.key]),
   ("no_readme_file", [readmeKey]), ("readme_not_changed", [readmeKey]),
   ("bilingual_readme", [readmeKey, Percentage.minPercentOfAnotherLanguage.key]),
   ("indent_not_multiple_of_tab_size", [Amount.tabSize.key])]

/-- All that a check has to be given. -/
def demands (name : String) : List String :=
  if Registry.isSupplied name then []
  else (if Registry.isPreflight name then pathKey else projectKey) :: (parameters.lookup name).getD []

/-- A check that is only run when all it has to be given is there. -/
def givenOnly (given : List String) (check : Check) : Check :=
  ⟨check.name, fun c =>
    match (demands check.name).filter (!given.contains ·) with
    | [] => check.run c
    | missing => .error (.lacking check.name missing)⟩

end Scrutiny.Check
