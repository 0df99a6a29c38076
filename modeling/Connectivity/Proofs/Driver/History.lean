import Mathlib.Data.List.Induction
import Connectivity.Driver.Recording
import Connectivity.Proofs.Driver.Selection

/-!
# The history of a registry

Builders are registered and unregistered in any order. What a registry holds in the end is told by
the last call about each id, and so is what it selects: calls about different ids may be exchanged.
-/
namespace Connectivity

/-- A call that changes a registry. -/
inductive Change (ε : Type) where
  | register (b : Builder ε)
  | unregister (id : String)

namespace Change

variable {ε : Type}

/-- The id that the call is about. -/
def id : Change ε → String
  | register b => b.id
  | unregister id => id

/-- The builder that the call leaves bound to its id. -/
def builder? : Change ε → Option (Builder ε)
  | register b => some b
  | unregister _ => none

theorem id_of_builder? {c : Change ε} {b : Builder ε} (h : c.builder? = some b) : b.id = c.id := by
  cases c with
  | register b' =>
      cases h
      rfl
  | unregister id => exact nomatch h

/-- The registry after the call, and the builder that the call returns. -/
def apply (r : Registry ε) : Change ε → Registry ε × Option (Builder ε)
  | register b => r.register b
  | unregister id => r.unregister id

theorem bound_apply (r : Registry ε) (c : Change ε) (id : String) :
    (c.apply r).1.bound id = if c.id = id then c.builder? else r.bound id := by
  cases c with
  | register b => exact r.getElem?_register b id
  | unregister removed => exact r.getElem?_unregister removed id

end Change

variable {ε : Type}

/-- The builder bound to an id by the last call about it. -/
def lastBound (history : List (Change ε)) (id : String) : Option (Builder ε) :=
  (history.reverse.find? fun c => c.id = id).bind Change.builder?

theorem lastBound_append (history : List (Change ε)) (c : Change ε) (id : String) :
    lastBound (history ++ [c]) id = if c.id = id then c.builder? else lastBound history id := by
  rw [lastBound, List.reverse_append, List.reverse_singleton, List.singleton_append,
    List.find?_cons]
  by_cases h : c.id = id
  · simp only [h, decide_true, if_true, Option.bind_some]
  · simp only [h, decide_false, if_false, lastBound]

/-- The last call about an id is the same in any order if there is no other call about it. -/
theorem lastBound_of_perm {history other : List (Change ε)} (h : other.Perm history)
    (hdistinct : (history.map Change.id).Nodup) (id : String) :
    lastBound other id = lastBound history id := by
  have hsame : ∀ c ∈ other.reverse, ∀ c' ∈ other.reverse, c.id = id → c'.id = id → c = c' := by
    intro c hc c' hc' hid hid'
    rw [List.mem_reverse, h.mem_iff] at hc hc'
    exact List.inj_on_of_nodup_map hdistinct hc hc' (hid.trans hid'.symm)
  have hmem : ∀ c, c ∈ other.reverse ↔ c ∈ history.reverse := by
    intro c
    rw [List.mem_reverse, List.mem_reverse, h.mem_iff]
  have hfind := map_find?_congr (f := fun c : Change ε => c) hmem fun c hc c' hc' hid hid' =>
    hsame c hc c' hc' (of_decide_eq_true hid) (of_decide_eq_true hid')
  rw [Option.map_id', Option.map_id'] at hfind
  rw [lastBound, hfind, lastBound]

namespace Registry

/-- The registry that a history of calls leaves. -/
def after (history : List (Change ε)) : Registry ε :=
  history.foldl (fun r c => (c.apply r).1) .empty

theorem after_append (history : List (Change ε)) (c : Change ε) :
    after (history ++ [c]) = (c.apply (after history)).1 := by
  rw [after, List.foldl_append]
  rfl

theorem bound_after (history : List (Change ε)) (id : String) :
    (after history).bound id = lastBound history id := by
  -- from the end of the history, as the last call is the one that decides about its id
  induction history using List.reverseRecOn with
  | nil => exact Std.TreeMap.getElem?_emptyc
  | append_singleton history c ih => rw [after_append, c.bound_apply, ih, lastBound_append]

/-- Every call binds a builder to its own id, if it binds one. -/
theorem keyed_after (history : List (Change ε)) : (after history).Keyed := by
  intro id b hb
  rw [bound_after, lastBound, Option.bind_eq_some_iff] at hb
  obtain ⟨c, hc, hb⟩ := hb
  have hid := List.find?_some hc
  rw [Change.id_of_builder? hb]
  exact of_decide_eq_true hid

/-- What registries with the same builders select, and whom they ask, is the same. -/
theorem selectFor_congr {r r' : Registry ε} (h : ∀ id, r.bound id = r'.bound id) (slot : Nat)
    (target : Target) (context : Context) :
    r.selectFor slot target context = r'.selectFor slot target context := by
  rw [selectFor, selectFor, values_congr h]

/-- A registry holds what a history of calls says of it. -/
structure Follows (r : Registry ε) (history : List (Change ε)) : Prop where
  bound : ∀ id, r.bound id = lastBound history id
  registered : ∀ b, (r.register b).2 = lastBound history b.id
  unregistered : ∀ id, (r.unregister id).2 = lastBound history id
  ascending : r.ids.Pairwise (· < ·)
  listed : ∀ id, id ∈ r.ids ↔ (lastBound history id).isSome
  size : r.size = r.ids.length

theorem follows_after (history : List (Change ε)) : (after history).Follows history where
  bound := bound_after history
  registered b := bound_after history b.id
  unregistered := bound_after history
  ascending := keys_ascending (after history).builders
  listed id := by
    rw [← bound_after, bound, ids, Std.TreeMap.mem_keys, Std.TreeMap.mem_iff_isSome_getElem?]
  size := Std.TreeMap.length_keys.symm

end Registry

/-- A registry is what the last call about each id leaves, and selects from the builders that are
bound then, in whatever order they came. -/
theorem selection_of_history (history : List (Change ε)) :
    (Registry.after history).Follows history ∧
      (∀ slot target context,
        (Registry.after history).Selects (lastBound history) slot target context) ∧
      (∀ other, (∀ id, lastBound other id = lastBound history id) →
        ∀ slot target context, (Registry.after other).selectFor slot target context =
          (Registry.after history).selectFor slot target context) ∧
      ∀ other, other.Perm history → (history.map Change.id).Nodup →
        ∀ slot target context, (Registry.after other).selectFor slot target context =
          (Registry.after history).selectFor slot target context := by
  have hbound : (Registry.after history).bound = lastBound history :=
    funext (Registry.bound_after history)
  have hsame : ∀ other, (∀ id, lastBound other id = lastBound history id) →
      ∀ slot target context, (Registry.after other).selectFor slot target context =
        (Registry.after history).selectFor slot target context := by
    intro other hlast
    refine Registry.selectFor_congr fun id => ?_
    rw [Registry.bound_after, Registry.bound_after, hlast]
  refine ⟨Registry.follows_after history, fun slot target context => ?_, hsame,
    fun other hperm hdistinct => hsame other (lastBound_of_perm hperm hdistinct)⟩
  rw [← hbound]
  exact (Registry.keyed_after history).selects slot target context

/-- A builder that answers for targets of some kinds. -/
def plainBuilder (id : String) (kinds : List TargetKind) : Builder Notice :=
  RecordingBuilder.toBuilder ⟨id, none, kinds, 0, none, none⟩

/-- Of two builders one is replaced by one that answers, and the other is unregistered. -/
def replacedAndRemoved : List (Change Notice) :=
  [.register (plainBuilder "a" []), .register (plainBuilder "b" TargetKind.all),
    .register (plainBuilder "a" TargetKind.all), .unregister "b"]

def onePoint : Target := .single ⟨⟨"n1", "n1:1"⟩, "f", none⟩

theorem lastBound_replacedAndRemoved (id : String) :
    lastBound [.register (plainBuilder "a" TargetKind.all)] id =
      lastBound replacedAndRemoved id := by
  by_cases hb : "b" = id
  · subst hb
    rfl
  · by_cases ha : "a" = id
    · subst ha
      rfl
    · simp [lastBound, replacedAndRemoved, Change.id, plainBuilder, RecordingBuilder.toBuilder,
        ha, hb]

theorem answering_replacedAndRemoved :
    answering (lastBound replacedAndRemoved) onePoint .none = {"a"} := by
  ext id
  rw [Set.mem_singleton_iff]
  constructor
  · rintro ⟨b, hb, -⟩
    rw [← lastBound_replacedAndRemoved, ← List.nil_append [_], lastBound_append] at hb
    split at hb
    · exact Eq.symm ‹_›
    · exact nomatch hb
  · rintro rfl
    exact ⟨_, rfl, rfl⟩

theorem replacedAndRemoved_selected :
    (∃ d, ((Registry.after replacedAndRemoved).selectFor 0 onePoint .none).result =
      .ok ⟨⟨0, "a"⟩, d⟩) ∧
      (Registry.after [.register (plainBuilder "a" TargetKind.all)]).selectFor 0 onePoint .none =
        (Registry.after replacedAndRemoved).selectFor 0 onePoint .none ∧
      (Registry.after (replacedAndRemoved.take 2).reverse).selectFor 0 onePoint .none =
        (Registry.after (replacedAndRemoved.take 2)).selectFor 0 onePoint .none := by
  obtain ⟨-, hselects, hsame, -⟩ := selection_of_history replacedAndRemoved
  obtain ⟨-, -, -, hpermuted⟩ := selection_of_history (replacedAndRemoved.take 2)
  refine ⟨⟨_, ((hselects 0 onePoint .none).selected _).2
    ⟨plainBuilder "a" TargetKind.all, _, answering_replacedAndRemoved, rfl, rfl, rfl⟩⟩,
    hsame _ lastBound_replacedAndRemoved 0 onePoint .none, ?_⟩
  exact hpermuted _ (List.reverse_perm _) (by decide) 0 onePoint .none

end Connectivity
