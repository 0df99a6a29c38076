import Connectivity.Proofs.Json.Inverse
import Mathlib.Logic.Relation

/-!
# Other notations of a value

A value that is written one way may be read from other notations as well. A schema says where: it
names the fields of a record and what stands for a field that is left out. Each step between two
notations keeps what a reader makes of them if the reader goes by the schema, one lemma for each
kind of schema, and then so does any number of steps.
-/
namespace Connectivity

namespace Json

/-- A field of a record, and the value that its absence stands for if it may be left out. -/
structure Field (σ : Type) where
  name : String
  absent : Option Json
  schema : σ

/-- How a kind of values is written. A `leaf` has one notation only, and so has a map whose keys are
data. An optional value is `null` or has the schema of its value. -/
inductive Schema where
  | leaf
  | choice
  | list (item : Schema)
  | record (fields : List (Field Schema))

namespace Schema

def names (fields : List (Field Schema)) : List String := fields.map Field.name

/-- One change of notation, at any depth. The value of an added key is any value of a document, of
any depth, and the key may have been added before. -/
inductive Step : Schema → Json → Json → Prop where
  | tag (name : String) : Step .choice (.string name) (.object [(name, .null)])
  | item {schema : Schema} {j j' : Json} (before after : List Json) (step : Step schema j j') :
      Step (.list schema) (.array (before ++ j :: after)) (.array (before ++ j' :: after))
  | permute {fields : List (Field Schema)} {members members' : List (String × Json)}
      (perm : members.Perm members') : Step (.record fields) (.object members) (.object members')
  | add {fields : List (Field Schema)} {key : String} (before after : List (String × Json))
      (value : Json) (unknown : key ∉ names fields) :
      Step (.record fields) (.object (before ++ after))
        (.object (before ++ (key, value) :: after))
  | drop {fields : List (Field Schema)} {field : Field Schema} {value : Json}
      (before after : List (String × Json)) (known : field ∈ fields)
      (absent : field.absent = some value) :
      Step (.record fields) (.object (before ++ (field.name, value) :: after))
        (.object (before ++ after))
  | place {fields : List (Field Schema)} {members : List (String × Json)}
      (complete : members.map Prod.fst = names fields) :
      Step (.record fields) (.object members) (.array (members.map Prod.snd))
  | named {fields : List (Field Schema)} {field : Field Schema} {j j' : Json}
      (before after : List (String × Json)) (known : field ∈ fields)
      (step : Step field.schema j j') :
      Step (.record fields) (.object (before ++ (field.name, j) :: after))
        (.object (before ++ (field.name, j') :: after))
  | placed {fields : List (Field Schema)} {field : Field Schema} {j j' : Json}
      (before after : List Json) (known : fields[before.length]? = some field)
      (step : Step field.schema j j') :
      Step (.record fields) (.array (before ++ j :: after)) (.array (before ++ j' :: after))

/-- Any number of changes, each at any depth. -/
def Rewrites (schema : Schema) : Json → Json → Prop := Relation.ReflTransGen schema.Step

/-- The value that is read from a notation is read from the next one too. -/
def Keeps {α : Type} (schema : Schema) (read : Json → Option α) : Prop :=
  ∀ ⦃j j' x⦄, schema.Step j j' → read j = some x → read j' = some x

section

variable {α : Type} {schema : Schema} {read : Json → Option α} {j j' : Json}

theorem Keeps.rewrites (h : schema.Keeps read) (hrewrites : schema.Rewrites j j') {x : α}
    (hx : read j = some x) : read j' = some x := by
  induction hrewrites with
  | refl => exact hx
  | tail _ step ih => exact h step ih

/-- No notation of a value is changed to `null` or from it. -/
theorem Step.ne_null (step : schema.Step j j') : j ≠ .null ∧ j' ≠ .null := by
  cases step <;> exact ⟨nofun, nofun⟩

theorem keeps_leaf : leaf.Keeps read := nofun

theorem keeps_choice (ofName? : String → Option α) : choice.Keeps (toChoice? ofName?) := by
  rintro _ _ x ⟨name⟩ h
  exact h

theorem Keeps.list (h : schema.Keeps read) : (Schema.list schema).Keeps (toList? read) := by
  intro j j' xs step hxs
  cases step with
  | item before after step =>
      simp only [toList?, List.mapM_append, List.mapM_cons, Option.bind_eq_bind,
        Option.bind_eq_some_iff] at hxs ⊢
      obtain ⟨front, hfront, back, ⟨x, hx, rest, hrest, hback⟩, hresult⟩ := hxs
      exact ⟨front, hfront, back, ⟨x, h step hx, rest, hrest, hback⟩, hresult⟩

theorem toOption?_of_ne_null (h : j ≠ .null) : j.toOption? read = (read j).map some := by
  cases j <;> first | rfl | exact absurd rfl h

theorem Keeps.option (h : schema.Keeps read) : schema.Keeps (toOption? read) := by
  intro j j' x step hx
  rw [toOption?_of_ne_null step.ne_null.1, Option.map_eq_some_iff] at hx
  obtain ⟨y, hy, rfl⟩ := hx
  rw [toOption?_of_ne_null step.ne_null.2, h step hy, Option.map_some]

end

end Schema

end Json

/-! ## Fields under a step -/

namespace Json

open Schema (names Step Keeps)

/-- What a step makes of one field. -/
inductive Field.Kept (field : Field Schema) (f f' : Fields Json) : Prop where
  | same (same : f'.get? field.name = f.get? field.name)
      (side : f.get? field.name = none → f'.byName = f.byName)
  | changed {j j' : Json} (step : field.schema.Step j j') (before : f.get? field.name = some j)
      (after : f'.get? field.name = some j')
  | dropped {value : Json} (absent : field.absent = some value)
      (before : f.get? field.name = some value) (after : f'.get? field.name = none)
      (byName : f'.byName = true)

namespace Schema

variable {fields : List (Field Schema)} {field : Field Schema}

theorem eq_of_name_eq (hnames : (names fields).Nodup) {field' : Field Schema}
    (h : field ∈ fields) (h' : field' ∈ fields) (heq : field'.name = field.name) : field' = field :=
  List.inj_on_of_nodup_map hnames h' h heq

/-- The entry of a field is not ignored. -/
theorem filter_known (known : field ∈ fields) (before after : List (String × Json)) (j : Json) :
    ((before ++ (field.name, j) :: after).filter fun entry => (names fields).contains entry.1) =
      (before.filter fun entry => (names fields).contains entry.1) ++
        (field.name, j) :: after.filter fun entry => (names fields).contains entry.1 := by
  have hname : field.name ∈ names fields := List.mem_map_of_mem known
  simp [hname]

/-- A step at one field leaves the others as they are. -/
theorem kept_of_step {byName : Bool} {before after : List (String × Json)} {j j' : Json}
    (hnames : (names fields).Nodup) (known : field ∈ fields) (step : Step field.schema j j')
    (h : ((before ++ (field.name, j) :: after).map Prod.fst).Nodup) :
    ∀ field' ∈ fields, field'.Kept ⟨before ++ (field.name, j) :: after, byName⟩
      ⟨before ++ (field.name, j') :: after, byName⟩ := by
  intro field' hfield'
  by_cases heq : field'.name = field.name
  · obtain rfl := eq_of_name_eq hnames known hfield' heq
    have h' : ((before ++ (field'.name, j') :: after).map Prod.fst).Nodup := by simpa using h
    exact .changed step (Fields.get?_middle h) (Fields.get?_middle h')
  · exact .same (by rw [Fields.get?_middle_of_ne heq, Fields.get?_middle_of_ne heq]) fun _ => rfl

theorem kept_of_drop {before after : List (String × Json)} {value : Json}
    (hnames : (names fields).Nodup) (known : field ∈ fields) (absent : field.absent = some value)
    (h : ((before ++ (field.name, value) :: after).map Prod.fst).Nodup) :
    ∀ field' ∈ fields, field'.Kept ⟨before ++ (field.name, value) :: after, true⟩
      ⟨before ++ after, true⟩ := by
  intro field' hfield'
  by_cases heq : field'.name = field.name
  · obtain rfl := eq_of_name_eq hnames known hfield' heq
    exact .dropped absent (Fields.get?_middle h) (Fields.get?_without h) rfl
  · exact .same (by rw [Fields.get?_middle_of_ne heq]) fun _ => rfl

/-- The item at the position of a field is what is given for it. -/
theorem ofItems_middle {before : List Json} (known : fields[before.length]? = some field)
    (after : List Json) : ∃ front back, ∀ j : Json,
      Fields.ofItems (names fields) (before ++ j :: after) =
        ⟨front ++ (field.name, j) :: back, false⟩ := by
  obtain ⟨hindex, rfl⟩ := List.getElem?_eq_some_iff.1 known
  refine ⟨(names (fields.take before.length)).zip before,
    (names (fields.drop (before.length + 1))).zip after, fun j => ?_⟩
  have hsplit : names fields = names (fields.take before.length) ++
      fields[before.length].name :: names (fields.drop (before.length + 1)) := by
    simp only [names]
    rw [← List.map_cons, ← List.drop_eq_getElem_cons hindex, ← List.map_append,
      List.take_append_drop]
  have hlength : (names (fields.take before.length)).length = before.length := by
    simp only [names, List.length_map, List.length_take, Nat.min_eq_left (Nat.le_of_lt hindex)]
  rw [Fields.ofItems, hsplit, List.zip_append hlength, List.zip_cons_cons]

/-- After a step an accepted record still gives its fields. -/
theorem Step.fields? {j j' : Json} {f : Fields Json} (step : Step (.record fields) j j')
    (hnames : (names fields).Nodup) (hf : j.fields? (names fields) = some f) :
    ∃ f', j'.fields? (names fields) = some f' ∧ fields.Forall fun field => field.Kept f f' := by
  simp only [List.forall_iff_forall_mem]
  cases step with
  | permute perm =>
      obtain ⟨hnodup, rfl⟩ := Fields.ofEntries?_eq_some_iff.1 hf
      have hknown := perm.filter fun entry => (names fields).contains entry.1
      exact ⟨_, Fields.ofEntries?_eq_some_iff.2 ⟨(hknown.map Prod.fst).nodup_iff.1 hnodup, rfl⟩,
        fun _ _ => .same (Fields.get?_perm hknown hnodup) fun _ => rfl⟩
  | add before after value unknown =>
      exact ⟨f, (Fields.ofEntries?_add unknown before after value).trans hf,
        fun _ _ => .same rfl fun _ => rfl⟩
  | drop before after known absent =>
      obtain ⟨hnodup, rfl⟩ := Fields.ofEntries?_eq_some_iff.1 hf
      rw [filter_known known] at hnodup ⊢
      refine ⟨_, Fields.ofEntries?_eq_some_iff.2 ⟨?_, rfl⟩, ?_⟩ <;> rw [List.filter_append]
      · exact (((List.append_sublist_append_left _).2 (List.sublist_cons_self _ _)).map
          Prod.fst).nodup hnodup
      · exact kept_of_drop hnames known absent hnodup
  | @place _ members complete =>
      obtain rfl := Option.some.inj ((fields?_object complete hnames).symm.trans hf)
      have hlength : (members.map Prod.snd).length ≤ (names fields).length := by simp [← complete]
      have hitems : Fields.ofItems (names fields) (members.map Prod.snd) = ⟨members, false⟩ := by
        rw [Fields.ofItems, ← complete, ← List.zip_of_prod rfl rfl]
      refine ⟨_, (if_pos hlength).trans (congrArg some hitems), fun field hfield => ?_⟩
      have hname : field.name ∈ names fields := List.mem_map_of_mem hfield
      exact .same rfl fun hnone => absurd (complete ▸ hname) (Fields.get?_eq_none_iff.1 hnone)
  | @named _ _ _ j' before after known step =>
      obtain ⟨hnodup, rfl⟩ := Fields.ofEntries?_eq_some_iff.1 hf
      rw [filter_known known] at hnodup ⊢
      refine ⟨_, Fields.ofEntries?_eq_some_iff.2 ⟨?_, rfl⟩, ?_⟩ <;> rw [filter_known known]
      · simpa using hnodup
      · exact kept_of_step hnames known step hnodup
  | @placed _ field j j' before after known step =>
      obtain ⟨hlength, hitems⟩ := Option.ite_none_right_eq_some.1 hf
      obtain rfl := Option.some.inj hitems
      obtain ⟨front, back, hgiven⟩ := ofItems_middle known after
      have hnodup : ((front ++ (field.name, j) :: back).map Prod.fst).Nodup := by
        simpa [hgiven] using Fields.ofItems_keys_nodup hnames (before ++ j :: after)
      have hlength' : (before ++ j' :: after).length ≤ (names fields).length := by
        simpa using hlength
      refine ⟨_, if_pos hlength', ?_⟩
      rw [hgiven j, hgiven j']
      exact kept_of_step hnames (List.mem_of_getElem? known) step hnodup

end Schema

namespace Field.Kept

variable {α : Type} {field : Field Schema} {f f' : Fields Json} {read : Json → Option α} {x : α}

theorem required (kept : field.Kept f f') (hread : field.schema.Keeps read)
    (habsent : field.absent = none) (h : f.required field.name read = some x) :
    f'.required field.name read = some x := by
  obtain ⟨j, hj, hx⟩ := Option.bind_eq_some_iff.1 h
  cases kept with
  | same same _ => rw [Fields.required, same, hj, Option.bind_some, hx]
  | changed step before after =>
      obtain rfl := Option.some.inj (before.symm.trans hj)
      rw [Fields.required, after, Option.bind_some, hread step hx]
  | dropped absent => cases habsent.symm.trans absent

/-- A field may be left out if what its absence stands for is read as the default. -/
theorem orDefault {default : α} {value : Json} (kept : field.Kept f f')
    (hread : field.schema.Keeps read) (habsent : field.absent = some value)
    (hdefault : read value = some default) (h : f.orDefault field.name default read = some x) :
    f'.orDefault field.name default read = some x := by
  unfold Fields.orDefault at h ⊢
  cases kept with
  | same same _ => rw [same, h]
  | changed step before after =>
      rw [before] at h
      rw [after]
      exact hread step h
  | dropped absent before after _ =>
      obtain rfl := Option.some.inj (habsent.symm.trans absent)
      rw [before] at h
      rw [after, ← h]
      exact hdefault.symm

/-- An optional field may be left out where fields go by name, and a step that leaves one out keeps
to that. -/
theorem optional {o : Option α} (kept : field.Kept f f') (hread : field.schema.Keeps read)
    (habsent : field.absent = some .null) (h : f.optional field.name read = some o) :
    f'.optional field.name read = some o := by
  unfold Fields.optional at h ⊢
  cases kept with
  | same same side =>
      rw [same, ← h]
      split
      case h_1 hnone => rw [side hnone]
      case h_2 => rfl
  | changed step before after =>
      rw [before] at h
      rw [after]
      exact hread.option step h
  | dropped absent before after byName =>
      obtain rfl := Option.some.inj (habsent.symm.trans absent)
      rw [before] at h
      rw [after, ← h, byName]
      rfl

end Field.Kept

/-! ## Agreement -/

section

variable {α : Type}

/-- All notations of a value agree: what rewriting makes of an accepted document denotes the same
value, and so does every text of what it makes of the document that is written for a value. -/
structure Agreement (schema : Schema) (valid : α → Prop) (write : α → Json)
    (read : Json → Option α) : Prop where
  read_rewrites : ∀ j j' x, schema.Rewrites j j' → read j = some x → read j' = some x
  decode?_rewrites : ∀ x, valid x → ∀ j, schema.Rewrites (write x) j →
    ∀ text, parse? text = some j → decode? read text = some x
  decode?_print : ∀ x, valid x → ∀ j, schema.Rewrites (write x) j →
    decode? read (print j) = some x

/-- An agreement on all values of a type. -/
abbrev AgreementForAll (schema : Schema) (write : α → Json) (read : Json → Option α) : Prop :=
  Agreement schema (fun _ => True) write read

theorem Schema.Keeps.agreement {schema : Schema} {valid : α → Prop} {write : α → Json}
    {read : Json → Option α} (h : schema.Keeps read)
    (hread : ∀ x, valid x → read (write x) = some x) : Agreement schema valid write read := by
  have decode?_rewrites : ∀ x, valid x → ∀ j, schema.Rewrites (write x) j →
      ∀ text, parse? text = some j → decode? read text = some x := by
    intro x hx j hj text htext
    rw [decode?, htext, Option.bind_some, h.rewrites hj (hread x hx)]
  exact ⟨fun j j' x hj hx => h.rewrites hj hx, decode?_rewrites,
    fun x hx j hj => decode?_rewrites x hx j hj _ (parse?_print j)⟩

theorem Schema.Keeps.agreementForAll {schema : Schema} {write : α → Json}
    {read : Json → Option α} (h : schema.Keeps read) (hread : Inverse write read) :
    AgreementForAll schema write read :=
  h.agreement fun x _ => hread x

end

end Json

end Connectivity
