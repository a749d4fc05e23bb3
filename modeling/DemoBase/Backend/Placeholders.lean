import DemoBase.Backend.LoadConfig

/-!
Owns the placeholders of configuration values: which texts the pattern matches,
what a matched placeholder becomes, and where in a document that happens.
-/

set_option autoImplicit false

namespace DemoBase.Backend

open DemoBase.Foundations DemoBase.Foundations.Dict

/-- The groups hold what their character classes allow. -/
structure EnvVarMatch.Proper (found : EnvVarMatch) : Prop where
  named : found.varName ≠ []
  nameChars : ∀ character ∈ found.varName, isNameChar character = true
  defaultChars : ∀ default, found.default = some default →
    ∀ character ∈ default, isDefaultChar character = true

/-- A class stops at the first character outside it. -/
private theorem takeWhile_append_stop {accepted : Char → Bool} {taken : List Char} {stop : Char}
    (rest : List Char) (inside : ∀ character ∈ taken, accepted character = true)
    (outside : accepted stop = false) :
    (taken ++ stop :: rest).takeWhile accepted = taken ∧
      (taken ++ stop :: rest).dropWhile accepted = stop :: rest := by
  rw [List.takeWhile_append_of_pos inside, List.dropWhile_append_of_pos inside]
  simp [outside]

/-- The pattern finds every placeholder that stands at the start of a text. -/
theorem matchEnvVar_group0 {found : EnvVarMatch} (proper : found.Proper) (rest : List Char) :
    matchEnvVar (found.group0 ++ rest) = some found := by
  obtain ⟨varName, default⟩ := found
  have named : varName ≠ [] := proper.named
  cases default with
  | none =>
      have text : EnvVarMatch.group0 ⟨varName, none⟩ ++ rest =
          '$' :: '{' :: (varName ++ '}' :: rest) := by
        simp [EnvVarMatch.group0]
      rcases takeWhile_append_stop rest proper.nameChars (by decide : isNameChar '}' = false) with
        ⟨taken, left⟩
      rw [text]
      simp only [matchEnvVar, taken, left, named, if_false]
  | some default =>
      have text : EnvVarMatch.group0 ⟨varName, some default⟩ ++ rest =
          '$' :: '{' :: (varName ++ ':' :: (default ++ '}' :: rest)) := by
        simp [EnvVarMatch.group0]
      rcases takeWhile_append_stop (default ++ '}' :: rest) proper.nameChars
        (by decide : isNameChar ':' = false) with ⟨taken, left⟩
      rcases takeWhile_append_stop rest (proper.defaultChars default rfl)
        (by decide : isDefaultChar '}' = false) with ⟨defaultTaken, defaultLeft⟩
      rw [text]
      simp only [matchEnvVar, taken, left, defaultTaken, defaultLeft, named, if_false]

/-- A string that is one placeholder becomes that placeholder's value, which is
not scanned again. -/
theorem replaceInString_group0 (envGetter : Environ) {found : EnvVarMatch}
    (proper : found.Proper) :
    replaceInString envGetter (String.ofList found.group0) =
      String.ofList (replaceVar envGetter found) := by
  have matched := matchEnvVar_group0 proper []
  rw [List.append_nil] at matched
  have replaced : envVarPattern.sub (replaceVar envGetter) found.group0 =
      replaceVar envGetter found :=
    Substitution.Pattern.sub_of_full_match matched rfl (by simp [EnvVarMatch.group0])
  rw [replaceInString, String.toList_ofList, replaced]

/-- Substitution changes what a path is set to and nothing else about it. -/
theorem status_replaceEnvVariables {Key : Type} [DecidableEq Key] (envGetter : Environ)
    {value found : Value Key} {path : List Key} (isSet : value.status path = .set found) :
    (replaceEnvVariables envGetter value).status path =
      .set (replaceEnvVariables envGetter found) := by
  induction path generalizing value with
  | nil =>
      cases value with
      | dict entries => cases isSet
      | _ =>
          cases isSet
          rfl
  | cons key path inductionHypothesis =>
      cases value with
      | dict entries =>
          cases present : entries.lookup key with
          | none =>
              rw [Value.status_of_absent present] at isSet
              cases isSet
          | some inner =>
              rw [Value.status_of_lookup present] at isSet
              have mapped : (replaceInEntries envGetter entries).lookup key =
                  some (replaceEnvVariables envGetter inner) := by
                rw [replaceInEntries_eq, lookup_mapValues, present]
                rfl
              rw [replaceEnvVariables, Value.status_of_lookup mapped]
              exact inductionHypothesis isSet
      | _ => cases isSet

end DemoBase.Backend
