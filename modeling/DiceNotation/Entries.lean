/-!
# Named entries

A list of named values in the order in which the names were first given. Giving a value to a name that is there
replaces the value in its place.
-/

namespace DiceNotation

/-- Values by name, in the order of the names' first appearance. -/
abbrev Entries (α : Type) := List (String × α)

namespace Entries

variable {α : Type}

/-- The value of a name. -/
def find? (entries : Entries α) (name : String) : Option α :=
  List.lookup name entries

/-- Give a name a value, in its old place if it has one and else at the end. -/
def insert (name : String) (value : α) : Entries α → Entries α
  | [] => [(name, value)]
  | (n, v) :: rest => if n = name then (name, value) :: rest else (n, v) :: insert name value rest

/-- Take a name away. -/
def erase (name : String) (entries : Entries α) : Entries α :=
  List.filter (fun entry => entry.1 != name) entries

/-- The entries of the second list over those of the first. -/
def merge (base upper : Entries α) : Entries α :=
  upper.foldl (fun acc entry => acc.insert entry.1 entry.2) base

@[simp] theorem find?_nil (name : String) : find? ([] : Entries α) name = none := rfl

theorem find?_cons (name n : String) (v : α) (rest : Entries α) :
    find? ((n, v) :: rest) name = if name = n then some v else find? rest name := by
  by_cases h : name = n
  · simp [find?, h]
  · simp [find?, List.lookup_cons, h, beq_eq_false_iff_ne.mpr h]

/-- A value just given is the one found, and no other name is touched. -/
theorem find?_insert (name n : String) (v : α) (entries : Entries α) :
    (entries.insert n v).find? name = if name = n then some v else entries.find? name := by
  induction entries with
  | nil => simp [insert, find?_cons]
  | cons entry rest ih =>
    obtain ⟨m, w⟩ := entry
    by_cases hm : m = n <;> by_cases hn : name = m <;> simp_all [insert, find?_cons]

/-- A name just taken away is not found, and no other name is touched. -/
theorem find?_erase (name n : String) (entries : Entries α) :
    (entries.erase n).find? name = if name = n then none else entries.find? name := by
  induction entries with
  | nil => simp [erase]
  | cons entry rest ih =>
    obtain ⟨m, w⟩ := entry
    simp only [erase] at ih
    by_cases hm : m = n <;> by_cases hn : name = m <;> simp_all [erase, find?_cons]

end Entries

end DiceNotation
