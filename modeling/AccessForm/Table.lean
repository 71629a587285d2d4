import AccessForm.Directory
import AccessForm.Json.Fault

/-!
# Argument tables

Which arguments a request may carry for each permission. A permission accepts either any text or
one out of a closed list; the list of the single text `*` is how a page writes the former. A table
never holds an unnamed permission, nor one without arguments.
-/

namespace AccessForm

/-! ## Allowances -/

/-- The arguments that one permission accepts. -/
inductive Allowance where
  /-- Any text. -/
  | anything
  /-- One of these texts, in the order of the page. -/
  | oneOf (options : List String)
  deriving DecidableEq, Repr

namespace Allowance

/-- The argument that stands for any text when it is the only one. -/
def wildcard : String := "*"

/-- The meaning of a list of arguments. Next to other arguments the wildcard is an argument like
any other. -/
def ofArguments (arguments : List String) : Allowance :=
  if arguments = [wildcard] then .anything else .oneOf arguments

/-- Whether any text is accepted. -/
def isAnything : Allowance → Bool
  | anything => true
  | oneOf _ => false

/-- The closed list of arguments, empty when any text is accepted. -/
def options : Allowance → List String
  | anything => []
  | oneOf options => options

theorem ofArguments_ne_oneOf_wildcard (arguments : List String) :
    ofArguments arguments ≠ .oneOf [wildcard] := by
  unfold ofArguments
  split
  · nofun
  · next h => exact fun heq ↦ h (oneOf.inj heq)

theorem ofArguments_eq_oneOf_nil_iff {arguments : List String} :
    ofArguments arguments = .oneOf [] ↔ arguments = [] := by
  unfold ofArguments
  split
  · next h => simp [h]
  · simp

end Allowance

/-! ## Tables -/

/-- Why there is no table. -/
inductive TableError where
  /-- One of the permissions has the empty name. -/
  | unnamedPermission
  /-- A permission has an empty list of arguments. -/
  | noArguments (permission : String)
  /-- The text is no JSON object of lists of texts. -/
  | malformed (fault : Json.Fault)
  deriving DecidableEq, Repr

/-- The wording of a table error. -/
def TableError.message : TableError → String
  | unnamedPermission => "permission name can not be empty"
  | noArguments permission => "permission '" ++ permission ++ "' has no allowed arguments"
  | malformed fault => fault.message

/-- The allowances of named permissions. -/
structure Table where
  /-- What each permission accepts. -/
  allowances : Directory Allowance
  /-- Every permission has a name. -/
  named : ∀ e ∈ allowances.entries, e.1 ≠ ""
  /-- Every permission has arguments, and the wildcard alone is read as such. -/
  settled : ∀ e ∈ allowances.entries, e.2 ≠ .oneOf [] ∧ e.2 ≠ .oneOf [Allowance.wildcard]

namespace Table

/-- The table without permissions. -/
def empty : Table where
  allowances := .empty
  named := by simp [Directory.empty]
  settled := by simp [Directory.empty]

/-- The permissions in ascending order. -/
def permissions (t : Table) : List String := t.allowances.names

/-- The number of permissions. -/
def size (t : Table) : Nat := t.allowances.size

/-- Whether there are no permissions. -/
def isEmpty (t : Table) : Bool := t.allowances.entries.isEmpty

/-- What a permission accepts. -/
def allowance? (t : Table) (permission : String) : Option Allowance := t.allowances.find? permission

/-- Whether the permission is in the table. -/
def contains (t : Table) (permission : String) : Bool := (t.allowance? permission).isSome

/-- The offered names that have no arguments. The empty name stands for "nothing selected" and is
never among them. -/
def missing (t : Table) (offered : List String) : List String :=
  offered.filter fun name ↦ name != "" && !t.contains name

/-! ## Tables from lists of arguments -/

/-- What is wrong with one permission and its arguments. -/
def flaw? (entry : String × List String) : Option TableError :=
  if entry.1 = "" then some .unnamedPermission
  else if entry.2 = [] then some (.noArguments entry.1)
  else none

/-- The table of a directory of argument lists, or what is wrong with the first permission at
fault in ascending order. -/
def ofArguments (arguments : Directory (List String)) : Except TableError Table :=
  match h : arguments.entries.findSome? flaw? with
  | some error => .error error
  | none =>
    have sound : ∀ e ∈ arguments.entries, e.1 ≠ "" ∧ e.2 ≠ [] := by
      intro e he
      have := List.findSome?_eq_none_iff.mp h e he
      unfold flaw? at this
      split at this
      · cases this
      · split at this
        · cases this
        · exact ⟨‹_›, ‹_›⟩
    .ok {
      allowances := arguments.map Allowance.ofArguments
      named := by
        simp only [Directory.map, List.mem_map]
        rintro _ ⟨e, he, rfl⟩
        exact (sound e he).1
      settled := by
        simp only [Directory.map, List.mem_map]
        rintro _ ⟨e, he, rfl⟩
        exact ⟨fun h ↦ (sound e he).2 (Allowance.ofArguments_eq_oneOf_nil_iff.mp h),
          Allowance.ofArguments_ne_oneOf_wildcard e.2⟩ }

/-- There is no table because of the first flaw. -/
theorem ofArguments_eq_error_iff {arguments : Directory (List String)} {error : TableError} :
    ofArguments arguments = .error error ↔ arguments.entries.findSome? flaw? = some error := by
  unfold ofArguments
  split
  · next h => simp [h]
  · next h => simp [h]

/-- A table gives every permission the meaning of its list of arguments. -/
theorem allowances_of_ofArguments {arguments : Directory (List String)} {t : Table}
    (h : ofArguments arguments = .ok t) : t.allowances = arguments.map Allowance.ofArguments := by
  unfold ofArguments at h
  split at h
  · cases h
  · obtain rfl := Except.ok.inj h
    rfl

end Table

end AccessForm
