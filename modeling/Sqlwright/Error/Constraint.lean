import Sqlwright.Text.Search

/-! Constraint violations, told from a driver's message by the words it begins with. The name
of the constraint stands between two delimiters in the message; it is empty where they are
missing. -/
namespace Sqlwright

inductive ConstraintKind where
  | unique | foreignKey | check
  deriving DecidableEq, Repr

def ConstraintKind.text : ConstraintKind → String
  | .unique => "unique"
  | .foreignKey => "foreign key"
  | .check => "check"

namespace Constraint

structure Wording where
  lead : String
  kind : ConstraintKind
  opening : String
  closing : String

def primaryKey : Wording := ⟨"mssql: Violation of PRIMARY KEY", .unique, "constraint '", "'"⟩

def uniqueKey : Wording := ⟨"mssql: Violation of UNIQUE KEY", .unique, "constraint '", "'"⟩

def conflict (statement noun : String) (kind : ConstraintKind) : Wording where
  lead := "mssql: The " ++ statement ++ " statement conflicted with the " ++ noun
  kind := kind
  opening := noun ++ " constraint \""
  closing := "\""

def wordings : List Wording :=
  [primaryKey, uniqueKey,
   conflict "UPDATE" "FOREIGN KEY" .foreignKey, conflict "INSERT" "FOREIGN KEY" .foreignKey,
   conflict "DELETE" "REFERENCE" .foreignKey,
   conflict "UPDATE" "CHECK" .check, conflict "INSERT" "CHECK" .check]

def Wording.begins (wording : Wording) (message : List Char) : Bool :=
  wording.lead.toList.isPrefixOf message

def between? (opening closing message : List Char) : Option (List Char) := do
  let (_, rest) ← Text.cut? opening message
  let (name, _) ← Text.cut? closing rest
  some name

def Wording.name (wording : Wording) (message : List Char) : List Char :=
  (between? wording.opening.toList wording.closing.toList message).getD []

def classify (message : String) : Option (ConstraintKind × String) :=
  (wordings.find? (·.begins message.toList)).map fun wording =>
    (wording.kind, String.ofList (wording.name message.toList))

theorem betweenJoin {opening closing message name : List Char}
    (found : between? opening closing message = some name) :
    ∃ before rest, message = before ++ opening ++ name ++ closing ++ rest := by
  unfold between? at found
  simp only [bind, Option.bind_eq_some_iff] at found
  obtain ⟨⟨before, tail⟩, first, ⟨inner, rest⟩, second, same⟩ := found
  cases Option.some.inj same
  have last : tail = inner ++ closing ++ rest := Text.cutJoin second
  exact ⟨before, rest, by simp [Text.cutJoin first, last]⟩

end Constraint

end Sqlwright
