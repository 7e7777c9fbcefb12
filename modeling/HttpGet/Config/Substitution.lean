/-
Environment variables in a text.

A placeholder is `$`, a brace, a name of one or more characters other than the closing
brace, and that brace.  A text is cut into placeholders, found from left to right, and
the characters between them.  A placeholder whose variable is set is replaced by the
value; any other stays as it is written.  A value is not looked at again.
-/

namespace HttpGet

/-- The variables of an environment. -/
abbrev Environment := String → Option String

/-- The environment of a list of variables.  A variable is stored as its name, an equals
sign and its value, and is found by what stands before any equals sign of that. -/
def Environment.ofList (vars : List (String × String)) : Environment := fun name =>
  vars.findSome? fun v =>
    let stored := (v.1 ++ "=" ++ v.2).toList
    let start := (name ++ "=").toList
    if start.isPrefixOf stored then some (String.ofList (stored.drop start.length)) else none

namespace Substitution

/-- A part of a text: a character that stands for itself, or a placeholder. -/
inductive Part where
  | literal (c : Char)
  | placeholder (name : List Char)
deriving DecidableEq, Repr

/-- A placeholder as it is written. -/
def Part.written : Part → List Char
  | literal c => [c]
  | placeholder name => '$' :: '{' :: name ++ ['}']

/-- The name of the placeholder that begins a text, and the text after it. -/
def placeholder? : List Char → Option (List Char × List Char)
  | '$' :: '{' :: rest =>
    match rest.takeWhile (· ≠ '}'), rest.dropWhile (· ≠ '}') with
    | c :: name, _ :: after => some (c :: name, after)
    | _, _ => none
  | _ => none

theorem length_of_placeholder? {s name after : List Char}
    (h : placeholder? s = some (name, after)) : after.length < s.length := by
  unfold placeholder? at h
  split at h
  · rename_i rest
    split at h
    · rename_i c n d r _ hd
      simp only [Option.some.injEq, Prod.mk.injEq] at h
      have hle := (List.dropWhile_sublist (l := rest) (· ≠ '}')).length_le
      rw [hd, h.2] at hle
      simp only [List.length_cons] at *
      omega
    · simp at h
  · simp at h

/-- The parts of a text. -/
def parts (s : List Char) : List Part :=
  match h : placeholder? s with
  | some (name, after) =>
    have : after.length < s.length := length_of_placeholder? h
    .placeholder name :: parts after
  | none =>
    match s with
    | [] => []
    | c :: rest => .literal c :: parts rest
termination_by s.length

/-- What stands in the place of a part. -/
def Part.fill (env : Environment) : Part → List Char
  | literal c => [c]
  | placeholder name =>
    match env (String.ofList name) with
    | some value => value.toList
    | none => (placeholder name).written

/-- The name of a part, if it is a placeholder. -/
def Part.name? : Part → Option String
  | literal _ => none
  | placeholder name => some (String.ofList name)

/-- The names of the placeholders of a text. -/
def names (text : String) : List String := (parts text.toList).filterMap Part.name?

end Substitution

/-- A text with its placeholders replaced by the variables of an environment. -/
def substitute (env : Environment) (text : String) : String :=
  String.ofList ((Substitution.parts text.toList).flatMap (Substitution.Part.fill env))

end HttpGet
