import DemoBase.Backend.Placeholders

/-!
Owns what a configuration string says, segment by segment: literal text and
references to variables. Substitution recovers the segments from the rendered
string and puts in their values in one pass.
-/

set_option autoImplicit false

namespace DemoBase.Backend

open DemoBase.Foundations

/-- What can stand between `${` and the end of the name. -/
structure ReferenceName where
  text : String
  nonempty : text ≠ ""
  noColon : ':' ∉ text.toList
  unclosed : '}' ∉ text.toList

/-- What can stand between the colon and the closing brace. -/
structure ReferenceDefault where
  text : String
  unclosed : '}' ∉ text.toList

inductive Segment where
  | literal (text : String)
  | reference (name : ReferenceName)
  | referenceOr (name : ReferenceName) (default : ReferenceDefault)

namespace Segment

/-- How the segment is written. -/
def text : Segment → String
  | .literal text => text
  | .reference name => "$\x7b" ++ name.text ++ "\x7d"
  | .referenceOr name default => "$\x7b" ++ name.text ++ ":" ++ default.text ++ "\x7d"

/-- What the segment stands for. A reference to an unset variable stands for its
default, and without one for itself. -/
def value (envGetter : Environ) : Segment → String
  | .literal text => text
  | .reference name => (envGetter name.text).getD ("$\x7b" ++ name.text ++ "\x7d")
  | .referenceOr name default => (envGetter name.text).getD default.text

end Segment

/-- The texts of the maximal runs of adjacent literals; `run` is what the first of
them begins with. -/
def literalRuns (run : List Char) : List Segment → List (List Char)
  | [] => [run]
  | .literal text :: rest => literalRuns (run ++ text.toList) rest
  | .reference _ :: rest => run :: literalRuns [] rest
  | .referenceOr _ _ :: rest => run :: literalRuns [] rest

/-- The text holds no `${`. -/
def Unopened (text : List Char) : Prop := ¬ ['$', '{'] <:+: text

instance decidableUnopened (text : List Char) : Decidable (Unopened text) :=
  inferInstanceAs (Decidable (¬ _))

/-- A string by its segments; no literal text opens a reference. -/
structure Template where
  segments : List Segment
  unopened : ∀ run ∈ literalRuns [] segments, Unopened run

def Template.render (template : Template) : String :=
  String.join (template.segments.map Segment.text)

def Template.value (template : Template) (envGetter : Environ) : String :=
  String.join (template.segments.map (Segment.value envGetter))

/-! ### Literal text -/

/-- Every placeholder opens with `${`. -/
theorem matchEnvVar_of_not_opened {text : List Char} (closed : ¬ ['$', '{'] <+: text) :
    matchEnvVar text = none := by
  unfold matchEnvVar
  split
  · rename_i rest
    exact absurd ⟨rest, rfl⟩ closed
  · rfl

/-- No placeholder starts inside a literal, also when a reference follows it. -/
theorem matchEnvVar_in_literal {run rest before after : List Char} {element : Char}
    (unopened : Unopened run) (boundary : rest.head? ≠ some '{')
    (split : run = before ++ element :: after) :
    matchEnvVar (element :: (after ++ rest)) = none := by
  apply matchEnvVar_of_not_opened
  rintro ⟨behind, opened⟩
  rw [List.cons_append, List.cons_append, List.nil_append] at opened
  rcases List.cons.inj opened with ⟨rfl, braced⟩
  cases after with
  | nil =>
      apply boundary
      rw [← List.nil_append rest, ← braced]
      rfl
  | cons next after =>
      obtain rfl := (List.cons.inj braced).1
      apply unopened
      exact ⟨before, after, by rw [split, List.append_assoc]; rfl⟩

theorem sub_literal (envGetter : Environ) {run rest : List Char} (unopened : Unopened run)
    (boundary : rest.head? ≠ some '{') :
    envVarPattern.sub (replaceVar envGetter) (run ++ rest) =
      run ++ envVarPattern.sub (replaceVar envGetter) rest := by
  apply Substitution.Pattern.sub_append_of_no_match
  intro before element after split
  exact matchEnvVar_in_literal unopened boundary split

/-! ### References -/

theorem ReferenceName.nameChars (name : ReferenceName) :
    ∀ character ∈ name.text.toList, isNameChar character = true := by
  intro character member
  have notColon : character ≠ ':' := fun same => name.noColon (same ▸ member)
  have notBrace : character ≠ '}' := fun same => name.unclosed (same ▸ member)
  simp [isNameChar, notColon, notBrace]

theorem ReferenceDefault.defaultChars (default : ReferenceDefault) :
    ∀ character ∈ default.text.toList, isDefaultChar character = true := by
  intro character member
  have notBrace : character ≠ '}' := fun same => default.unclosed (same ▸ member)
  simp [isDefaultChar, notBrace]

/-- The match a reference is found as. -/
def ReferenceName.found (name : ReferenceName) (default : Option ReferenceDefault) :
    EnvVarMatch :=
  ⟨name.text.toList, default.map fun default => default.text.toList⟩

theorem ReferenceName.found_proper (name : ReferenceName) (default : Option ReferenceDefault) :
    (name.found default).Proper := by
  refine ⟨?_, name.nameChars, ?_⟩
  · intro empty
    exact name.nonempty (String.toList_injective empty)
  · intro text isDefault
    cases default with
    | none => cases isDefault
    | some default =>
        cases isDefault
        exact default.defaultChars

theorem Segment.text_reference (name : ReferenceName) :
    (Segment.reference name).text.toList = (name.found none).group0 := by
  simp [Segment.text, ReferenceName.found, EnvVarMatch.group0]

theorem Segment.text_referenceOr (name : ReferenceName) (default : ReferenceDefault) :
    (Segment.referenceOr name default).text.toList = (name.found (some default)).group0 := by
  simp [Segment.text, ReferenceName.found, EnvVarMatch.group0]

theorem Segment.value_reference (envGetter : Environ) (name : ReferenceName) :
    ((Segment.reference name).value envGetter).toList =
      replaceVar envGetter (name.found none) := by
  have named : String.ofList (name.found none).varName = name.text := String.ofList_toList
  rw [Segment.value, replaceVar, named]
  cases envGetter name.text with
  | none => exact Segment.text_reference name
  | some envValue => rfl

theorem Segment.value_referenceOr (envGetter : Environ) (name : ReferenceName)
    (default : ReferenceDefault) :
    ((Segment.referenceOr name default).value envGetter).toList =
      replaceVar envGetter (name.found (some default)) := by
  have named : String.ofList (name.found (some default)).varName = name.text :=
    String.ofList_toList
  rw [Segment.value, replaceVar, named]
  cases envGetter name.text with
  | none => rfl
  | some envValue => rfl

theorem sub_found (envGetter : Environ) {found : EnvVarMatch} (proper : found.Proper)
    (rest : List Char) :
    envVarPattern.sub (replaceVar envGetter) (found.group0 ++ rest) =
      replaceVar envGetter found ++ envVarPattern.sub (replaceVar envGetter) rest :=
  Substitution.Pattern.sub_of_match (matchEnvVar_group0 proper rest) rfl
    (by simp [EnvVarMatch.group0])

/-- A literal run and the reference behind it. -/
theorem sub_literal_found (envGetter : Environ) {run : List Char} (unopened : Unopened run)
    {found : EnvVarMatch} (proper : found.Proper) (rest : List Char) :
    envVarPattern.sub (replaceVar envGetter) (run ++ (found.group0 ++ rest)) =
      run ++ (replaceVar envGetter found ++ envVarPattern.sub (replaceVar envGetter) rest) := by
  have boundary : (found.group0 ++ rest).head? ≠ some '{' := by simp [EnvVarMatch.group0]
  rw [sub_literal envGetter unopened boundary, sub_found envGetter proper]

/-! ### The whole string -/

/-- The induction is on the segments; `run` is the literal text in front of them
that has not been passed yet. -/
theorem sub_segments (envGetter : Environ) (segments : List Segment) {run : List Char}
    (unopened : ∀ text ∈ literalRuns run segments, Unopened text) :
    envVarPattern.sub (replaceVar envGetter)
        (run ++ (segments.map Segment.text).flatMap String.toList) =
      run ++ (segments.map (Segment.value envGetter)).flatMap String.toList := by
  induction segments generalizing run with
  | nil => exact sub_literal envGetter (unopened run List.mem_cons_self) (by simp)
  | cons segment rest inductionHypothesis =>
      rw [List.map_cons, List.map_cons, List.flatMap_cons, List.flatMap_cons]
      cases segment with
      | literal text =>
          rw [← List.append_assoc, ← List.append_assoc]
          exact inductionHypothesis unopened
      | reference name =>
          have behind := inductionHypothesis fun text member =>
            unopened text (List.mem_cons_of_mem _ member)
          rw [List.nil_append, List.nil_append] at behind
          rw [Segment.text_reference, Segment.value_reference,
            sub_literal_found envGetter (unopened run List.mem_cons_self)
              (name.found_proper none), behind]
      | referenceOr name default =>
          have behind := inductionHypothesis fun text member =>
            unopened text (List.mem_cons_of_mem _ member)
          rw [List.nil_append, List.nil_append] at behind
          rw [Segment.text_referenceOr, Segment.value_referenceOr,
            sub_literal_found envGetter (unopened run List.mem_cons_self)
              (name.found_proper (some default)), behind]

/-- A rendered string becomes the concatenation of its segments' values, whatever
these contain. -/
theorem replaceEnvVariables_render {Key : Type} (envGetter : Environ) (template : Template) :
    replaceEnvVariables envGetter (.string template.render : Value Key) =
      .string (template.value envGetter) := by
  have replaced := sub_segments envGetter template.segments template.unopened
  rw [List.nil_append, List.nil_append, ← String.toList_join, ← String.toList_join] at replaced
  rw [replaceEnvVariables, replaceInString, Template.render, replaced, String.ofList_toList]
  rfl

/-- A dollar sign right before a reference, and a default that opens another. -/
private def endpoint : Template where
  segments := [.literal "$", .reference ⟨"HOST", by decide, by decide, by decide⟩, .literal ":",
    .referenceOr ⟨"PORT", by decide, by decide, by decide⟩ ⟨"$\x7b:80", by decide⟩]
  unopened := by decide

/-- The value of the first reference looks like one. -/
theorem replaceEnvVariables_render_endpoint :
    replaceEnvVariables (fun name => if name = "HOST" then some "$\x7bPORT:1\x7d" else none)
        (.string "$$\x7bHOST\x7d:$\x7bPORT:$\x7b:80\x7d" : Value String) =
      .string "$$\x7bPORT:1\x7d:$\x7b:80" := by
  have rendered : endpoint.render = "$$\x7bHOST\x7d:$\x7bPORT:$\x7b:80\x7d" := by decide
  have value : endpoint.value (fun name => if name = "HOST" then some "$\x7bPORT:1\x7d"
      else none) = "$$\x7bPORT:1\x7d:$\x7b:80" := by decide
  rw [← rendered, ← value]
  exact replaceEnvVariables_render _ endpoint

end DemoBase.Backend
