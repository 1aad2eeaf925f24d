import ProxyControl.Binary64
import ProxyControl.Document.Datetime

/-!
# Values of documents

A document is a table: named values in ascending order of their names. A value is text, a number,
a truth value, a date or time, a list of values or a table again.

## Main definitions

* `Value`, `Table`: the values
* `Value.same`: whether two values are the same
* `Table.value?`: the value of a name
* `Table.put`: a table with a value under a name
* `Table.keep`: a table with some of its names only
* `Table.Sorted`: the names are in strictly ascending order

## Main results

* `Value.same_iff`: values are the same only if they are equal
* `Table.value?_put`: writing a name changes what that name has, and nothing else
* `Table.value?_keep`: the names kept have what they had, the others nothing
* `Table.sorted_put`: the order is kept
-/

set_option autoImplicit false

namespace ProxyControl.Document

/-- Whether a character may stand in a name without quotes. -/
def isBare (c : Char) : Bool := c.isAlphanum || c = '-' || c = '_'

/-- A value of a document. -/
inductive Value where
  | string (s : String)
  /-- A whole number. -/
  | integer (n : Int)
  /-- A number with a fraction. -/
  | float (x : Binary64)
  | boolean (b : Bool)
  /-- A date, a time or both. -/
  | datetime (d : Datetime)
  /-- A list of values. -/
  | array (items : List Value)
  /-- Named values. -/
  | table (entries : List (String × Value))
  deriving Repr

/-- Named values, in ascending order of their names. -/
abbrev Table := List (String × Value)

mutual

/-- Whether two values are the same. -/
def Value.same : Value → Value → Bool
  | .string s, .string t => s = t
  | .integer m, .integer n => m = n
  | .float x, .float y => x = y
  | .boolean b, .boolean c => b = c
  | .datetime d, .datetime e => d = e
  | .array items, .array others => sameItems items others
  | .table entries, .table others => sameEntries entries others
  | _, _ => false
termination_by structural v => v

/-- Whether two lists have the same values. -/
def sameItems : List Value → List Value → Bool
  | [], [] => true
  | v :: rest, w :: others => v.same w && sameItems rest others
  | _, _ => false
termination_by structural items => items

/-- Whether two lists have the same entries. -/
def sameEntries : List (String × Value) → List (String × Value) → Bool
  | [], [] => true
  | (k, v) :: rest, (l, w) :: others => k = l && v.same w && sameEntries rest others
  | _, _ => false
termination_by structural entries => entries

end

mutual

theorem Value.same_iff : ∀ v w : Value, v.same w = true ↔ v = w
  | .string s, w => by cases w <;> simp [Value.same]
  | .integer n, w => by cases w <;> simp [Value.same]
  | .float x, w => by cases w <;> simp [Value.same]
  | .boolean b, w => by cases w <;> simp [Value.same]
  | .datetime d, w => by cases w <;> simp [Value.same]
  | .array items, w => by cases w <;> simp [Value.same, sameItems_iff items]
  | .table entries, w => by cases w <;> simp [Value.same, sameEntries_iff entries]

theorem sameItems_iff : ∀ items others : List Value, sameItems items others = true ↔ items = others
  | [], others => by cases others <;> simp [sameItems]
  | v :: rest, others => by cases others <;> simp [sameItems, v.same_iff, sameItems_iff rest]

theorem sameEntries_iff : ∀ entries others : List (String × Value),
    sameEntries entries others = true ↔ entries = others
  | [], others => by cases others <;> simp [sameEntries]
  | (k, v) :: rest, others => by
    cases others <;> simp [sameEntries, v.same_iff, sameEntries_iff rest, Prod.ext_iff]

end

/-- Values can be compared, however deep they nest. -/
instance : DecidableEq Value := fun v w => decidable_of_iff _ (v.same_iff w)

namespace Table

/-- The value under a name. -/
def value? : Table → String → Option Value
  | [], _ => none
  | (k, v) :: rest, name => if k = name then some v else value? rest name

/-- The table with a value under a name, in place of any other value there. -/
def put : Table → String → Value → Table
  | [], name, value => [(name, value)]
  | (k, v) :: rest, name, value =>
    if name = k then (name, value) :: rest
    else if name < k then (name, value) :: (k, v) :: rest
    else (k, v) :: put rest name value

/-- The table without the names that `p` rejects. -/
def keep (p : String → Bool) (t : Table) : Table := t.filter fun e => p e.1

/-- The names are in strictly ascending order. -/
def Sorted (t : Table) : Prop := t.Pairwise fun a b => a.1 < b.1

/-- The table with the given entries, of which a later one replaces an earlier one of its name. -/
def ofEntries (entries : List (String × Value)) : Table :=
  entries.foldl (fun t e => put t e.1 e.2) []

@[simp] theorem value?_nil (name : String) : value? [] name = none := rfl

theorem value?_cons (k : String) (v : Value) (rest : Table) (name : String) :
    value? ((k, v) :: rest) name = if k = name then some v else value? rest name := rfl

/-- Writing a name changes what that name has, and nothing else. -/
theorem value?_put (t : Table) (name : String) (value : Value) (other : String) :
    value? (put t name value) other = if name = other then some value else value? t other := by
  induction t with
  | nil => simp [put, value?_cons]
  | cons e rest ih =>
    obtain ⟨k, v⟩ := e
    by_cases hk : name = k
    · subst hk
      simp only [put, if_true, value?_cons]
      split <;> rfl
    · by_cases hlt : name < k
      · simp [put, hk, hlt, value?_cons]
      · simp only [put, hk, hlt, if_false, value?_cons, ih]
        by_cases hko : k = other
        · subst hko
          simp [hk]
        · simp [hko]

/-- The names kept have what they had, and the others nothing. -/
theorem value?_keep (p : String → Bool) (t : Table) (name : String) :
    value? (keep p t) name = if p name then value? t name else none := by
  induction t with
  | nil => simp [keep]
  | cons e rest ih =>
    obtain ⟨k, v⟩ := e
    simp only [keep] at ih ⊢
    by_cases hp : p k
    · simp only [List.filter_cons, hp, if_true, value?_cons, ih]
      by_cases hk : k = name
      · subst hk
        simp [hp]
      · simp [hk]
    · by_cases hk : k = name
      · subst hk
        simpa [List.filter_cons, hp, value?_cons] using ih
      · simpa [List.filter_cons, hp, value?_cons, hk] using ih

theorem sorted_nil : Sorted [] := List.Pairwise.nil

theorem mem_put {t : Table} {name : String} {value : Value} {e : String × Value}
    (h : e ∈ put t name value) : e = (name, value) ∨ e ∈ t := by
  induction t with
  | nil => simpa [put] using h
  | cons f rest ih =>
    unfold put at h
    split at h
    · grind
    · split at h
      · grind
      · grind

/-- Writing a name keeps the order. -/
theorem sorted_put {t : Table} (name : String) (value : Value) (h : Sorted t) :
    Sorted (put t name value) := by
  induction t with
  | nil => exact List.pairwise_singleton _ _
  | cons f rest ih =>
    obtain ⟨k, v⟩ := f
    obtain ⟨hk, hrest⟩ := List.pairwise_cons.1 h
    unfold put
    split
    · next heq => exact List.pairwise_cons.2 ⟨fun e he => heq ▸ hk e he, hrest⟩
    · next hne =>
      split
      · next hlt =>
        refine List.pairwise_cons.2 ⟨fun e he => ?_, h⟩
        rcases List.mem_cons.1 he with rfl | he
        · exact hlt
        · exact String.lt_trans hlt (hk e he)
      · next hnlt =>
        refine List.pairwise_cons.2 ⟨fun e he => ?_, ih hrest⟩
        rcases mem_put he with rfl | he
        · exact Std.lt_of_le_of_ne (String.not_lt.1 hnlt) (Ne.symm hne)
        · exact hk e he

end Table

end ProxyControl.Document
