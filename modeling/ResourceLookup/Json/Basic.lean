/-!
# JSON values

The values of the JSON data format. A number is an integer of 64 bits or a binary floating point
number. The members of an object are kept in the order and number in which they were written;
`Json.canonical` sorts them by name at every depth and keeps the last of several with one name,
which is how raw values are stored, compared and written.

Sorting keeps the last of the members with one name (`Json.lookup_sortMembers`), and every name once
(`Json.pairwise_sortMembers`).

`Json.sameValue` compares two values as data: floating point numbers by value, so that the two
zeros are the same, and everything else structurally.
-/

set_option autoImplicit false
set_option relaxedAutoImplicit false

namespace ResourceLookup

/-- A JSON number: an integer between `-2^63` and `2^64 - 1`, or a finite floating point number. -/
inductive JsonNumber where
  | integer (value : Int)
  | real (value : Float)
  deriving DecidableEq

/-- A JSON value. -/
inductive Json where
  | null
  | bool (value : Bool)
  | number (value : JsonNumber)
  | string (value : String)
  | array (elements : List Json)
  | object (members : List (String × Json))
  deriving Inhabited

namespace Json

/-! ### Members of an object -/

/-- The value of the member of that name. -/
def lookup (name : String) : List (String × Json) → Option Json
  | [] => none
  | (key, value) :: rest => if key = name then some value else lookup name rest

/-- The members with one more, which replaces a member of the same name; names in ascending order
stay in ascending order. -/
def insert (name : String) (value : Json) : List (String × Json) → List (String × Json)
  | [] => [(name, value)]
  | (key, old) :: rest =>
    if name < key then (name, value) :: (key, old) :: rest
    else if name = key then (name, value) :: rest
    else (key, old) :: insert name value rest

/-- The members in ascending order of name; of several with one name the last one stays. -/
def sortMembers (members : List (String × Json)) : List (String × Json) :=
  members.foldl (fun sorted (name, value) ↦ insert name value sorted) []

/-! ### Members that are found -/

section Finding

variable {name key : String} {value : Json} {members : List (String × Json)}

/-- What is found under a name is the first member of that name. -/
theorem lookup_eq_some_iff :
    lookup name members = some value ↔
      ∃ before behind, members = before ++ (name, value) :: behind ∧
        name ∉ before.map Prod.fst := by
  induction members with
  | nil => simp [lookup]
  | cons member rest ih =>
    obtain ⟨key, old⟩ := member
    by_cases hkey : key = name
    · rw [lookup, if_pos hkey, hkey]
      constructor
      · rintro hold
        obtain rfl := Option.some.inj hold
        exact ⟨[], rest, rfl, List.not_mem_nil⟩
      · rintro ⟨_ | ⟨first, before⟩, behind, hmembers, hbefore⟩
        · obtain ⟨hmember, -⟩ := List.cons.inj hmembers
          rw [(Prod.mk.inj hmember).2]
        · obtain ⟨rfl, -⟩ := List.cons.inj hmembers
          exact absurd List.mem_cons_self hbefore
    · rw [lookup, if_neg hkey, ih]
      constructor
      · rintro ⟨before, behind, rfl, hbefore⟩
        refine ⟨(key, old) :: before, behind, rfl, ?_⟩
        rw [List.map_cons, List.mem_cons, not_or]
        exact ⟨Ne.symm hkey, hbefore⟩
      · rintro ⟨_ | ⟨first, before⟩, behind, hmembers, hbefore⟩
        · exact absurd (Prod.mk.inj (List.cons.inj hmembers).1).1 hkey
        · obtain ⟨rfl, hrest⟩ := List.cons.inj hmembers
          rw [List.map_cons, List.mem_cons, not_or] at hbefore
          exact ⟨before, behind, hrest, hbefore.2⟩

theorem lookup_append (first second : List (String × Json)) :
    lookup name (first ++ second) = (lookup name first).or (lookup name second) := by
  induction first with
  | nil => rfl
  | cons member rest ih =>
    obtain ⟨key, old⟩ := member
    rw [List.cons_append, lookup, lookup]
    split
    · rfl
    · exact ih

/-- A member that is put in is found, and everything under other names as before. -/
theorem lookup_insert :
    lookup name (insert key value members) =
      if key = name then some value else lookup name members := by
  induction members with
  | nil => rfl
  | cons member rest ih =>
    obtain ⟨other, old⟩ := member
    unfold insert
    split
    · rfl
    · split
      · next hsame =>
        subst hsame
        rw [lookup, lookup]
        split <;> rfl
      · next hother =>
        rw [lookup, lookup, ih]
        by_cases hname : other = name
        · rw [if_pos hname, if_pos hname, if_neg (hname ▸ hother)]
        · rw [if_neg hname, if_neg hname]

theorem lookup_foldl_insert (sorted : List (String × Json)) :
    lookup name (members.foldl (fun sorted (name, value) ↦ insert name value sorted) sorted) =
      (lookup name members.reverse).or (lookup name sorted) := by
  induction members generalizing sorted with
  | nil => rfl
  | cons member rest ih =>
    obtain ⟨key, value⟩ := member
    rw [List.foldl_cons, ih, lookup_insert, List.reverse_cons, lookup_append, Option.or_assoc,
      lookup]
    split <;> rfl

/-- Of several members with one name the last one is found among the sorted ones. -/
theorem lookup_sortMembers : lookup name (sortMembers members) = lookup name members.reverse := by
  rw [sortMembers, lookup_foldl_insert, lookup, Option.or_none]

theorem eq_or_mem_of_mem_insert {member : String × Json}
    (hmember : member ∈ insert name value members) : member = (name, value) ∨ member ∈ members := by
  induction members with
  | nil => exact .inl (List.mem_singleton.mp hmember)
  | cons first rest ih =>
    unfold insert at hmember
    split at hmember
    · exact List.mem_cons.mp hmember
    · split at hmember
      · exact (List.mem_cons.mp hmember).imp_right (List.mem_cons_of_mem first)
      · rcases List.mem_cons.mp hmember with rfl | hrest
        · exact .inr List.mem_cons_self
        · exact (ih hrest).imp_right (List.mem_cons_of_mem first)

theorem pairwise_insert (hmembers : members.Pairwise fun first second ↦ first.1 < second.1) :
    (insert name value members).Pairwise fun first second ↦ first.1 < second.1 := by
  induction members with
  | nil => exact List.pairwise_singleton _ _
  | cons first rest ih =>
    have hrest := List.pairwise_cons.mp hmembers
    unfold insert
    split
    · next hbefore =>
      refine .cons (fun other hother ↦ ?_) hmembers
      rcases List.mem_cons.mp hother with rfl | hother
      · exact hbefore
      · exact String.lt_trans hbefore (hrest.1 other hother)
    · next hnotBefore =>
      split
      · next hsame => exact .cons (fun other hother ↦ hsame ▸ hrest.1 other hother) hrest.2
      · next hdifferent =>
        refine .cons (fun other hother ↦ ?_) (ih hrest.2)
        rcases eq_or_mem_of_mem_insert hother with rfl | hother
        · exact Std.lt_of_le_of_ne (String.not_lt.mp hnotBefore) (Ne.symm hdifferent)
        · exact hrest.1 other hother

/-- The sorted members ascend by name, so that every name is there once. -/
theorem pairwise_sortMembers (members : List (String × Json)) :
    (sortMembers members).Pairwise fun first second ↦ first.1 < second.1 := by
  have hfold : ∀ sorted : List (String × Json),
      (sorted.Pairwise fun first second ↦ first.1 < second.1) →
      (members.foldl (fun sorted (name, value) ↦ insert name value sorted) sorted).Pairwise
        fun first second ↦ first.1 < second.1 := by
    induction members with
    | nil => exact fun _ hsorted ↦ hsorted
    | cons member rest ih => exact fun _ hsorted ↦ ih _ (pairwise_insert hsorted)
  exact hfold [] .nil

end Finding

mutual

/-- The value with the members of every object sorted by name, the last of each name kept. -/
def canonical : Json → Json
  | .array elements => .array (canonicalElements elements)
  | .object members => .object (sortMembers (canonicalMembers members))
  | other => other
termination_by structural value => value

/-- `canonical` on every element. -/
def canonicalElements : List Json → List Json
  | [] => []
  | first :: rest => canonical first :: canonicalElements rest
termination_by structural elements => elements

/-- `canonical` on every member, in the order written. -/
def canonicalMembers : List (String × Json) → List (String × Json)
  | [] => []
  | (name, value) :: rest => (name, canonical value) :: canonicalMembers rest
termination_by structural members => members

end

/-! ### Equality -/

mutual

/-- Equality of two values is decidable. -/
def decEq : (a b : Json) → Decidable (a = b)
  | .null, .null => .isTrue rfl
  | .bool a, .bool b => if h : a = b then .isTrue (by rw [h]) else .isFalse (by simpa using h)
  | .number a, .number b => if h : a = b then .isTrue (by rw [h]) else .isFalse (by simpa using h)
  | .string a, .string b => if h : a = b then .isTrue (by rw [h]) else .isFalse (by simpa using h)
  | .array a, .array b => match decEqElements a b with
    | .isTrue h => .isTrue (by rw [h])
    | .isFalse h => .isFalse (by simpa using h)
  | .object a, .object b => match decEqMembers a b with
    | .isTrue h => .isTrue (by rw [h])
    | .isFalse h => .isFalse (by simpa using h)
  | .null, .bool _ | .null, .number _ | .null, .string _ | .null, .array _ | .null, .object _
  | .bool _, .null | .bool _, .number _ | .bool _, .string _ | .bool _, .array _
  | .bool _, .object _ | .number _, .null | .number _, .bool _ | .number _, .string _
  | .number _, .array _ | .number _, .object _ | .string _, .null | .string _, .bool _
  | .string _, .number _ | .string _, .array _ | .string _, .object _ | .array _, .null
  | .array _, .bool _ | .array _, .number _ | .array _, .string _ | .array _, .object _
  | .object _, .null | .object _, .bool _ | .object _, .number _ | .object _, .string _
  | .object _, .array _ => .isFalse (by simp)

/-- Equality of two lists of elements is decidable. -/
def decEqElements : (a b : List Json) → Decidable (a = b)
  | [], [] => .isTrue rfl
  | [], _ :: _ => .isFalse (by simp)
  | _ :: _, [] => .isFalse (by simp)
  | x :: xs, y :: ys => match decEq x y, decEqElements xs ys with
    | .isTrue h, .isTrue h' => .isTrue (by rw [h, h'])
    | .isFalse h, _ => .isFalse (by simp [h])
    | _, .isFalse h => .isFalse (by simp [h])

/-- Equality of two lists of members is decidable. -/
def decEqMembers : (a b : List (String × Json)) → Decidable (a = b)
  | [], [] => .isTrue rfl
  | [], _ :: _ => .isFalse (by simp)
  | _ :: _, [] => .isFalse (by simp)
  | (k, x) :: xs, (l, y) :: ys =>
    if hk : k = l then
      match decEq x y, decEqMembers xs ys with
      | .isTrue h, .isTrue h' => .isTrue (by rw [hk, h, h'])
      | .isFalse h, _ => .isFalse (by simp [h])
      | _, .isFalse h => .isFalse (by simp [h])
    else .isFalse (by simp [hk])

end

instance : DecidableEq Json := decEq

/-- Two numbers denote the same number of the same kind. -/
def sameNumber : JsonNumber → JsonNumber → Bool
  | .integer a, .integer b => a == b
  | .real a, .real b => a == b
  | _, _ => false

mutual

/-- Two values are the same data. -/
def sameValue : Json → Json → Bool
  | .null, .null => true
  | .bool a, .bool b => a == b
  | .number a, .number b => sameNumber a b
  | .string a, .string b => a == b
  | .array a, .array b => sameElements a b
  | .object a, .object b => sameMembers a b
  | _, _ => false
termination_by structural value => value

/-- `sameValue` element by element. -/
def sameElements : List Json → List Json → Bool
  | [], [] => true
  | a :: as, b :: bs => sameValue a b && sameElements as bs
  | _, _ => false
termination_by structural elements => elements

/-- `sameValue` member by member, names included. -/
def sameMembers : List (String × Json) → List (String × Json) → Bool
  | [], [] => true
  | (j, a) :: as, (k, b) :: bs => j == k && sameValue a b && sameMembers as bs
  | _, _ => false
termination_by structural members => members

end

/-! ### Building values -/

/-- A natural number as a JSON value. -/
def ofNat (value : Nat) : Json :=
  .number (.integer value)

/-- A value, or `null` where there is none. -/
def ofOption {α : Type} (write : α → Json) : Option α → Json
  | none => .null
  | some value => write value

/-- A list of texts as a JSON array. -/
def ofStrings (texts : List String) : Json :=
  .array (texts.map .string)

end Json

end ResourceLookup
