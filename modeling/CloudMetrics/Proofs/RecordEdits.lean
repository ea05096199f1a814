import CloudMetrics.Json.Shape
import Mathlib.Data.List.Nodup

/-!
# Edits of records

Two texts of a record say the same where one leaves out a member and the other has a null for it, and where
they differ in members that the record does not know. This is a relation between JSON values beside the
shape that reads them, with a rule for each place at which a record can stand. A shape forgives such a
difference if each of its members reads null as what it is when it is missing, apart from members of which
something more is asked.
-/
namespace CloudMetrics.Json

/-- The names of members that have a type of their own, in which null is no value. -/
def strictNames : List String := ["CPU","MemoryMB","SizeMB","Paid"]

abbrev Members := List (String × Json)

namespace Members

variable {ms : Members}

/-- No name comes twice. -/
def Distinct (ms : Members) : Prop := (ms.map Prod.fst).Nodup

instance : Decidable ms.Distinct := inferInstanceAs (Decidable (ms.map Prod.fst).Nodup)

def without (name : String) (ms : Members) : Members := ms.filter fun m => m.1 ≠ name

def nulled (name : String) (ms : Members) : Members := ms.map fun m => if m.1 = name then (name,.null) else m

theorem Distinct.without (h : ms.Distinct) (name : String) : (ms.without name).Distinct :=
  h.sublist (List.filter_sublist.map _)

theorem map_fst_nulled (name : String) (ms : Members) : (ms.nulled name).map Prod.fst = ms.map Prod.fst := by
  rw [nulled,List.map_map]
  refine List.map_congr_left fun m _ => ?_
  simp only [Function.comp_apply]
  split
  · next h => exact h.symm
  · rfl

theorem Distinct.nulled (h : ms.Distinct) (name : String) : (ms.nulled name).Distinct := by
  rw [Distinct,map_fst_nulled]
  exact h

theorem member?_cons (name : String) (m : String × Json) (ms : Members) :
    member? name (m :: ms) = if name = m.1 then some m.2 else member? name ms :=
  lookup_cons name m ms

theorem member?_without (name name' : String) (ms : Members) :
    member? name' (ms.without name) = if name' = name then none else member? name' ms := by
  induction ms with
  | nil => simp [without,member?]
  | cons m ms ih =>
    rw [without] at ih
    by_cases hm : m.1 = name
    · rw [without,List.filter_cons_of_neg (by simpa using hm),ih,member?_cons,hm]
      split <;> rfl
    · rw [without,List.filter_cons_of_pos (by simpa using hm),member?_cons,ih,member?_cons]
      by_cases hname : name' = m.1
      · have hne : name' ≠ name := hname ▸ hm
        rw [if_pos hname,if_neg hne,if_pos hname]
      · rw [if_neg hname,if_neg hname]

theorem member?_nulled (name name' : String) (ms : Members) :
    member? name' (ms.nulled name) =
      if name' = name then (member? name ms).map fun _ => .null else member? name' ms := by
  induction ms with
  | nil => simp [nulled,member?]
  | cons m ms ih =>
    rw [nulled] at ih
    rw [nulled,List.map_cons,member?_cons,ih,member?_cons,member?_cons]
    by_cases hm : m.1 = name
    · rw [if_pos hm,hm,if_pos rfl]
      split <;> rfl
    · rw [if_neg hm,if_neg (Ne.symm hm)]
      by_cases hname : name' = m.1
      · have hne : name' ≠ name := hname ▸ hm
        rw [if_pos hname,if_neg hne,if_pos hname]
      · rw [if_neg hname,if_neg hname]

theorem member?_append (name : String) (ms ms' : Members) :
    member? name (ms ++ ms') = (member? name ms).or (member? name ms') :=
  List.lookup_append

/-- A member stands alone under its name. -/
theorem Distinct.member?_eq {before after : Members} {name : String} {v : Json}
    (h : Distinct (before ++ (name,v) :: after)) (w : Json) :
    member? name (before ++ (name,w) :: after) = some w := by
  have hbefore : member? name before = none := by
    rw [member?,List.lookup_eq_none_iff]
    intro m hm
    rw [Distinct,List.map_append,List.nodup_append] at h
    have hne := h.2.2 _ (List.mem_map_of_mem hm) name (by simp)
    simpa using hne.symm
  rw [member?_append,hbefore,Option.none_or,member?_cons,if_pos rfl]

theorem member?_eq_of_ne {before after : Members} {name name' : String} (h : name' ≠ name) (v w : Json) :
    member? name' (before ++ (name,v) :: after) = member? name' (before ++ (name,w) :: after) := by
  rw [member?_append,member?_append,member?_cons,member?_cons,if_neg h,if_neg h]

theorem Distinct.not_repeatsKnown (h : ms.Distinct) (names : List String) : repeatsKnown names ms = false := by
  rw [repeatsKnown,List.any_eq_false]
  intro name _
  have hcount := List.nodup_iff_count_le_one.mp h name
  rw [List.count,List.countP_map,List.countP_eq_length_filter] at hcount
  rw [decide_eq_true_eq,Nat.not_lt]
  exact hcount

end Members

/-- A member of a record with the value it has when it is missing, and its shape. -/
inductive Fields.Has : {α β : Type} → Fields α → String → Option β → Shape β → Prop
  | last {α β : Type} {before : Fields (α → β)} {name : String} {absent : Option α} {shape : Shape α} :
    Has (.next before name absent shape) name absent shape
  | before {α β γ : Type} {before : Fields (α → β)} {name name' : String} {absent : Option α} {absent' : Option γ}
    {shape : Shape α} {shape' : Shape γ} : Has before name' absent' shape' →
    Has (.next before name absent shape) name' absent' shape'
  | joinBefore {α β γ : Type} {before : Fields (α → β)} {inner : Fields α} {name : String} {absent : Option γ}
    {shape : Shape γ} : Has before name absent shape → Has (.join before inner) name absent shape
  | joined {α β γ : Type} {before : Fields (α → β)} {inner : Fields α} {name : String} {absent : Option γ}
    {shape : Shape γ} : Has inner name absent shape → Has (.join before inner) name absent shape

/-- What a member is read as. -/
def readField {α : Type} (name : String) (absent : Option α) (shape : Shape α) (ms : Members) : Option α :=
  match member? name ms with
  | some v => shape.read v
  | none => absent

namespace Fields

theorem ofMembers_start {α : Type} (a : α) (ms : Members) : (Fields.start a).ofMembers ms = some a := by
  rw [ofMembers]

theorem ofMembers_next {α β : Type} (before : Fields (α → β)) (name : String) (absent : Option α)
    (shape : Shape α) (ms : Members) : (Fields.next before name absent shape).ofMembers ms =
      (before.ofMembers ms).bind fun f => (readField name absent shape ms).map f := by
  rw [ofMembers]
  refine congrArg _ (funext fun f => ?_)
  rw [readField]
  cases member? name ms <;> rfl

/-- A record is the same where each member is read as the same. -/
theorem ofMembers_congr {α : Type} : (fields : Fields α) → {ms ms' : Members} →
    (∀ {β : Type} (name : String) (absent : Option β) (shape : Shape β), fields.Has name absent shape →
      readField name absent shape ms = readField name absent shape ms') →
    fields.ofMembers ms = fields.ofMembers ms'
  | .start _, _, _, _ => by rw [ofMembers,ofMembers]
  | .next before name absent shape, _, _, h => by
    rw [ofMembers_next,ofMembers_next,before.ofMembers_congr fun n a s hm => h n a s (.before hm),
      h name absent shape .last]
  | .join before inner, _, _, h => by
    rw [ofMembers,ofMembers,before.ofMembers_congr fun n a s hm => h n a s (.joinBefore hm),
      inner.ofMembers_congr fun n a s hm => h n a s (.joined hm)]

theorem Has.mem_names {α β : Type} {fields : Fields α} {name : String} {absent : Option β} {shape : Shape β}
    (h : fields.Has name absent shape) : name ∈ fields.names := by
  induction h with
  | last => simp [names]
  | before _ ih => simp [names,ih]
  | joinBefore _ ih => simp [names,ih]
  | joined _ ih => simp [names,ih]

theorem ofMembers_of_not_mem {α : Type} {fields : Fields α} {name : String} (h : name ∉ fields.names)
    (before after : Members) (v w : Json) :
    fields.ofMembers (before ++ (name,v) :: after) = fields.ofMembers (before ++ (name,w) :: after) := by
  refine fields.ofMembers_congr fun name' absent shape hm => ?_
  have hne : name' ≠ name := fun he => h (he ▸ hm.mem_names)
  rw [readField,readField,Members.member?_eq_of_ne hne v w]

/-- The value of one member may be exchanged for one that is read as the same. -/
theorem ofMembers_member {α β : Type} {fields : Fields α} {name : String} {absent : Option β} {shape : Shape β}
    (h : fields.Has name absent shape) (hn : fields.names.Nodup) {before after : Members} {v w : Json}
    (hd : Members.Distinct (before ++ (name,v) :: after)) (hv : shape.read v = shape.read w) :
    fields.ofMembers (before ++ (name,v) :: after) = fields.ofMembers (before ++ (name,w) :: after) := by
  induction h with
  | @last _ _ inner name absent shape =>
    rw [names,List.nodup_append] at hn
    have hmem : name ∉ inner.names := fun hm => hn.2.2 name hm name List.mem_cons_self rfl
    rw [ofMembers_next,ofMembers_next,ofMembers_of_not_mem hmem before after v w,readField,readField,
      hd.member?_eq v,hd.member?_eq w]
    simp only [hv]
  | @before _ _ _ inner name name' _ _ _ _ hin ih =>
    rw [names,List.nodup_append] at hn
    have hne : name ≠ name' := fun he => hn.2.2 name' hin.mem_names name List.mem_cons_self he.symm
    rw [ofMembers_next,ofMembers_next,ih hn.1 hd hv,readField,readField,Members.member?_eq_of_ne hne v w]
  | @joinBefore _ _ _ inner inner' name _ _ hin ih =>
    rw [names,List.nodup_append] at hn
    have hmem : name ∉ inner'.names := fun hm => hn.2.2 name hin.mem_names name hm rfl
    rw [ofMembers,ofMembers,ih hn.1 hd hv,ofMembers_of_not_mem hmem before after v w]
  | @joined _ _ _ inner inner' name _ _ hin ih =>
    rw [names,List.nodup_append] at hn
    have hmem : name ∉ inner.names := fun hm => hn.2.2 name hm name hin.mem_names rfl
    rw [ofMembers,ofMembers,ih hn.2.1 hd hv,ofMembers_of_not_mem hmem before after v w]

/-- The shape of the member at a place. -/
inductive Slot : {α β : Type} → Fields α → Nat → Shape β → Prop
  | last {α β : Type} {before : Fields (α → β)} {name : String} {absent : Option α} {shape : Shape α} :
    Slot (.next before name absent shape) before.names.length shape
  | before {α β γ : Type} {before : Fields (α → β)} {name : String} {absent : Option α} {shape : Shape α} {i : Nat}
    {shape' : Shape γ} : Slot before i shape' → Slot (.next before name absent shape) i shape'
  | joinBefore {α β γ : Type} {before : Fields (α → β)} {inner : Fields α} {i : Nat} {shape : Shape γ} :
    Slot before i shape → Slot (.join before inner) i shape
  | joined {α β γ : Type} {before : Fields (α → β)} {inner : Fields α} {i : Nat} {shape : Shape γ} :
    Slot inner i shape → Slot (.join before inner) (before.names.length+i) shape

theorem exists_append_of_le_length {items : List Json} {n : Nat} (h : n ≤ items.length) :
    ∃ init last, items = init ++ last ∧ init.length = n :=
  ⟨items.take n,items.drop n,(List.take_append_drop n items).symm,List.length_take_of_le h⟩

/-- As many values as there are members are used up, and what is left is as it was. -/
theorem exists_ofItems_append {α : Type} : (fields : Fields α) → {items : List Json} →
    items.length = fields.names.length → ∃ a : Option α, ∀ rest, fields.ofItems (items ++ rest) = a.map (·,rest)
  | .start a, items, h => by
    obtain rfl := List.eq_nil_of_length_eq_zero h
    exact ⟨some a,fun rest => by rw [ofItems]; rfl⟩
  | .next before name absent shape, items, h => by
    rw [names,List.length_append,List.length_singleton] at h
    obtain ⟨init,v,rfl⟩ := List.eq_nil_or_concat items |>.resolve_left (List.ne_nil_of_length_eq_add_one h)
    rw [List.concat_eq_append] at h ⊢
    rw [List.length_append,List.length_singleton,Nat.add_right_cancel_iff] at h
    obtain ⟨f,hf⟩ := before.exists_ofItems_append h
    refine ⟨f.bind fun f => (shape.read v).map f,fun rest => ?_⟩
    rw [ofItems,List.append_assoc,hf]
    cases f with
    | none => rfl
    | some f => cases hv : shape.read v <;> simp [hv]
  | .join before inner, items, h => by
    rw [names,List.length_append] at h
    obtain ⟨init,last,rfl,hinit⟩ := exists_append_of_le_length (Nat.le.intro h.symm)
    rw [List.length_append,hinit,Nat.add_left_cancel_iff] at h
    obtain ⟨f,hf⟩ := before.exists_ofItems_append hinit
    obtain ⟨a,ha⟩ := inner.exists_ofItems_append h
    refine ⟨f.bind fun f => a.map f,fun rest => ?_⟩
    rw [ofItems,List.append_assoc,hf]
    cases f with
    | none => rfl
    | some f => cases a <;> simp [ha]

/-- The value at one place may be exchanged for one that is read as the same. -/
theorem ofItems_slot {α β : Type} {fields : Fields α} {i : Nat} {shape : Shape β} (h : fields.Slot i shape)
    {before after : List Json} {v w : Json} (hi : before.length = i) (hv : shape.read v = shape.read w) :
    fields.ofItems (before ++ v :: after) = fields.ofItems (before ++ w :: after) := by
  induction h generalizing before with
  | @last _ _ inner _ _ _ =>
    obtain ⟨f,hf⟩ := inner.exists_ofItems_append hi
    rw [ofItems,ofItems,hf,hf]
    cases f with
    | none => rfl
    | some f => simp [hv]
  | before _ ih => rw [ofItems,ofItems,ih hi hv]
  | joinBefore _ ih => rw [ofItems,ofItems,ih hi hv]
  | @joined _ _ _ inner _ i _ _ ih =>
    obtain ⟨init,last,rfl,hinit⟩ := exists_append_of_le_length (Nat.le.intro hi.symm)
    rw [List.length_append,hinit,Nat.add_left_cancel_iff] at hi
    obtain ⟨f,hf⟩ := inner.exists_ofItems_append hinit
    rw [ofItems,ofItems,List.append_assoc,List.append_assoc,hf,hf]
    cases f with
    | none => rfl
    | some f => simp [ih hi hv]

end Fields

mutual
/-- No two members have one name, and every member that is not asked for by name reads null as what it is when
it is missing; and so in all records inside, of which no name is asked for. -/
def Shape.Forgiving {α : Type} (asked : List String) : Shape α → Prop
  | .leaf _ => True
  | .list item => item.Forgiving []
  | .nullable _ shape => shape.Forgiving []
  | .optional shape => shape.Forgiving []
  | .record fields => fields.names.Nodup ∧ fields.Forgiving asked
  | .joined fields => fields.names.Nodup ∧ fields.Forgiving asked
  | .entries value => value.Forgiving []

def Fields.Forgiving {α : Type} (asked : List String) : Fields α → Prop
  | .start _ => True
  | .next before name absent shape =>
    before.Forgiving asked ∧ (name ∈ asked ∨ name ∈ strictNames ∨ shape.read .null = absent) ∧ shape.Forgiving []
  | .join before inner => before.Forgiving asked ∧ inner.Forgiving asked
end

theorem Fields.Forgiving.of_has {α β : Type} {asked : List String} {fields : Fields α} {name : String}
    {absent : Option β} {shape : Shape β} (h : fields.Forgiving asked) (hm : fields.Has name absent shape) :
    (name ∈ asked ∨ name ∈ strictNames ∨ shape.read .null = absent) ∧ shape.Forgiving [] := by
  induction hm with
  | last =>
    rw [Forgiving] at h
    exact h.2
  | before _ ih =>
    rw [Forgiving] at h
    exact ih h.1
  | joinBefore _ ih =>
    rw [Forgiving] at h
    exact ih h.1
  | joined _ ih =>
    rw [Forgiving] at h
    exact ih h.2

theorem Fields.Forgiving.of_slot {α β : Type} {asked : List String} {fields : Fields α} {i : Nat} {shape : Shape β}
    (h : fields.Forgiving asked) (hs : fields.Slot i shape) : shape.Forgiving [] := by
  induction hs with
  | last =>
    rw [Forgiving] at h
    exact h.2.2
  | before _ ih =>
    rw [Forgiving] at h
    exact ih h.1
  | joinBefore _ ih =>
    rw [Forgiving] at h
    exact ih h.1
  | joined _ ih =>
    rw [Forgiving] at h
    exact ih h.2

/-- An object, whose members belong together with those of another record or not. -/
inductive Shape.IsRecord : {α : Type} → Shape α → Fields α → Prop
  | record {α : Type} {fields : Fields α} : IsRecord (.record fields) fields
  | joined {α : Type} {fields : Fields α} : IsRecord (.joined fields) fields

/-- Two values that say the same to a shape, where the names in a list are asked for. -/
inductive Alike : List String → {α : Type} → Shape α → Json → Json → Prop
  /-- A null stands for a missing member. -/
  | missing {asked : List String} {α : Type} {shape : Shape α} {fields : Fields α} {name : String} {ms : Members} :
    shape.IsRecord fields → ms.Distinct → name ∉ asked → name ∉ strictNames →
    Alike asked shape (.object (ms.without name)) (.object (ms.nulled name))
  /-- Unknown members are ignored. -/
  | unknown {asked : List String} {α : Type} {shape : Shape α} {fields : Fields α} {ms ms' : Members} :
    shape.IsRecord fields → ms.Distinct → ms'.Distinct →
    (∀ name ∈ fields.names, member? name ms = member? name ms') →
    Alike asked shape (.object ms) (.object ms')
  | member {asked : List String} {α β : Type} {shape : Shape α} {fields : Fields α} {name : String}
    {absent : Option β} {inner : Shape β} {before after : Members} {v v' : Json} :
    shape.IsRecord fields → fields.Has name absent inner → Members.Distinct (before ++ (name,v) :: after) →
    Alike [] inner v v' →
    Alike asked shape (.object (before ++ (name,v) :: after)) (.object (before ++ (name,v') :: after))
  | item {asked : List String} {α : Type} {item : Shape α} {before after : List Json} {v v' : Json} :
    Alike [] item v v' → Alike asked (.list item) (.array (before ++ v :: after)) (.array (before ++ v' :: after))
  /-- A record may be written as the list of its members' values. -/
  | slot {asked : List String} {α β : Type} {fields : Fields α} {i : Nat} {inner : Shape β} {before after : List Json}
    {v v' : Json} : fields.Slot i inner → before.length = i → Alike [] inner v v' →
    Alike asked (.record fields) (.array (before ++ v :: after)) (.array (before ++ v' :: after))
  | nullable {asked : List String} {α : Type} {whenNull : α} {shape : Shape α} {v v' : Json} :
    Alike [] shape v v' → Alike asked (.nullable whenNull shape) v v'
  | optional {asked : List String} {α : Type} {shape : Shape α} {v v' : Json} :
    Alike [] shape v v' → Alike asked (.optional shape) v v'

namespace Shape

variable {α : Type} {shape : Shape α} {fields : Fields α}

theorem IsRecord.read_object (h : shape.IsRecord fields) {ms : Members} (hd : ms.Distinct) :
    shape.read (.object ms) = fields.ofMembers ms := by
  cases h with
  | record =>
    rw [read,hd.not_repeatsKnown]
    rfl
  | joined => rw [read]

theorem IsRecord.ofMembers_of_read (h : shape.IsRecord fields) {ms : Members} {a : α}
    (hread : shape.read (.object ms) = some a) : fields.ofMembers ms = some a := by
  cases h with
  | record =>
    rw [read] at hread
    split at hread
    · cases hread
    · exact hread
  | joined => rwa [read] at hread

theorem read_nullable (whenNull : α) (shape : Shape α) {v : Json} (h : v ≠ .null) :
    (Shape.nullable whenNull shape).read v = shape.read v := by
  rw [read]
  exact h

theorem read_optional (shape : Shape α) {v : Json} (h : v ≠ .null) :
    (Shape.optional shape).read v = (shape.read v).map some := by
  rw [read]
  exact h

theorem IsRecord.forgiving (h : shape.IsRecord fields) {asked : List String} (hf : shape.Forgiving asked) :
    fields.names.Nodup ∧ fields.Forgiving asked := by
  cases h <;> rwa [Forgiving] at hf

end Shape

/-- Nothing is like a null. -/
theorem Alike.ne_null {asked : List String} {α : Type} {shape : Shape α} {v v' : Json}
    (h : Alike asked shape v v') : v ≠ .null ∧ v' ≠ .null := by
  induction h with
  | missing | unknown | member | item | slot => exact ⟨nofun,nofun⟩
  | nullable _ ih | optional _ ih => exact ih

theorem traverse_append_cons_congr {α β : Type} {f : α → Option β} {a a' : α} (h : f a = f a')
    (before after : List α) : Json.traverse f (before ++ a :: after) = Json.traverse f (before ++ a' :: after) := by
  induction before with
  | nil => rw [List.nil_append,List.nil_append,Json.traverse,Json.traverse,h]
  | cons b before ih => rw [List.cons_append,List.cons_append,Json.traverse,Json.traverse,ih]

/-- A forgiving shape reads values that say the same as the same. -/
theorem Alike.read_eq {asked : List String} {α : Type} {shape : Shape α} {v v' : Json}
    (h : Alike asked shape v v') (hf : shape.Forgiving asked) : shape.read v = shape.read v' := by
  induction h with
  | @missing asked α shape fields name ms hr hd hasked hstrict =>
    rw [hr.read_object (hd.without name),hr.read_object (hd.nulled name)]
    refine fields.ofMembers_congr fun name' absent inner hm => ?_
    rw [readField,readField,Members.member?_without,Members.member?_nulled]
    by_cases hname : name' = name
    · subst hname
      have hnull := (((hr.forgiving hf).2.of_has hm).1.resolve_left hasked).resolve_left hstrict
      rw [if_pos rfl,if_pos rfl]
      cases member? name' ms with
      | none => rfl
      | some v => exact hnull.symm
    · rw [if_neg hname,if_neg hname]
  | @unknown asked α shape fields ms ms' hr hd hd' hsame =>
    rw [hr.read_object hd,hr.read_object hd']
    refine fields.ofMembers_congr fun name absent inner hm => ?_
    rw [readField,readField,hsame name hm.mem_names]
  | @member asked α β shape fields name absent inner before after v v' hr hm hd hin ih =>
    obtain ⟨hnames,hfields⟩ := hr.forgiving hf
    have hd' : Members.Distinct (before ++ (name,v') :: after) := by
      simpa [Members.Distinct] using hd
    rw [hr.read_object hd,hr.read_object hd']
    exact Fields.ofMembers_member hm hnames hd (ih (hfields.of_has hm).2)
  | item hin ih =>
    rw [Shape.Forgiving] at hf
    rw [Shape.read,Shape.read]
    exact traverse_append_cons_congr (ih hf) _ _
  | nullable hin ih =>
    rw [Shape.Forgiving] at hf
    rw [Shape.read_nullable _ _ hin.ne_null.1,Shape.read_nullable _ _ hin.ne_null.2,ih hf]
  | optional hin ih =>
    rw [Shape.Forgiving] at hf
    rw [Shape.read_optional _ hin.ne_null.1,Shape.read_optional _ hin.ne_null.2,ih hf]
  | @slot asked α β fields i inner before after v v' hs hi hin ih =>
    rw [Shape.Forgiving] at hf
    rw [Shape.read,Shape.read,Fields.ofItems_slot hs hi (ih (hf.2.of_slot hs))]

end CloudMetrics.Json
