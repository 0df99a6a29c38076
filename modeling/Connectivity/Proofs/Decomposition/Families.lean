import Connectivity.Driver.Recording
import Connectivity.Proofs.Decomposition.Partition
import Connectivity.Proofs.Driver.Selection

/-!
# One builder for each driver family

A sub-request is on edge points of one node, and its target names the driver family of that node at
each of them. A builder of this family answers, and builders of other families do not.
-/
namespace Connectivity

/-- A target on edge points of one node, with one driver family. -/
structure Target.On (target : Target) (node : NodeId) (family : String) : Prop where
  nonempty : target.points ≠ []
  node : ∀ p ∈ target.points, p.ref.nodeId = node
  family : ∀ p ∈ target.points, p.driverId = family

/-- The target of a sub-request is on its node, and has its driver family. -/
theorem SubRequest.Ordered.exists_target_on {s : SubRequest} (h : s.Ordered) :
    ∃ target, Target.ofSubRequest? s = some target ∧ target.On s.nodeId s.driverId := by
  obtain ⟨target, htarget, -⟩ := h.exists_target
  obtain ⟨hne, hpoints⟩ := Target.of_ofSubRequest? htarget
  refine ⟨target, htarget, hne, fun p hp => ?_, fun p hp => (hpoints p hp).1⟩
  obtain ⟨-, e, he, hpoint⟩ := hpoints p hp
  have hnode := h.resolved e he
  rw [EndPoint.nodeId?, hpoint] at hnode
  exact Option.some.inj hnode

namespace RecordingBuilder

/-- The builder makes drivers for all targets of a driver family, and for no others. -/
structure Serves (b : RecordingBuilder) (family : String) : Prop where
  kinds : ∀ kind, kind ∈ b.kinds
  family : b.driverId = some family

variable {b : RecordingBuilder} {family : String} {target : Target}

theorem Serves.driverFor?_isSome_iff (h : b.Serves family) {node : NodeId} {required : String}
    (htarget : target.On node required) :
    (b.driverFor? target).isSome ↔ family = required := by
  obtain ⟨first, rest, hpoints⟩ := List.exists_cons_of_ne_nil htarget.nonempty
  have hkind : b.kinds.contains target.kind = true := List.contains_iff_mem.2 (h.kinds _)
  have hfirst := htarget.family first (hpoints ▸ List.mem_cons_self)
  have hall : ((first :: rest).all fun p => p.driverId = family) = true ↔ family = required := by
    rw [List.all_eq_true]
    constructor
    · intro hall
      rw [← hfirst, of_decide_eq_true (hall first List.mem_cons_self)]
    · rintro rfl p hp
      exact decide_eq_true (htarget.family p (hpoints ▸ hp))
  rw [← hall, driverFor?, hpoints]
  simp only [hkind, h.family, Bool.true_and, Option.all_some]
  split
  · exact iff_of_true rfl ‹_›
  · exact iff_of_false nofun ‹_›

/-- What a builder does tells its driver family. -/
theorem Serves.family_eq {b' : RecordingBuilder} {family' : String} (h : b.Serves family)
    (h' : b'.Serves family') (heq : b.toBuilder = b'.toBuilder) : family = family' := by
  have hon : (Target.single ⟨⟨"", ""⟩, family, none⟩).On "" family :=
    ⟨nofun, fun p hp => by rw [List.mem_singleton.1 hp],
      fun p hp => by rw [List.mem_singleton.1 hp]⟩
  have hoffers := congrArg
    (fun b => (b.offer (.single ⟨⟨"", ""⟩, family, none⟩) .none).2.isSome) heq
  simp only [toBuilder, Option.isSome_map, (h.driverFor?_isSome_iff hon).2 rfl] at hoffers
  exact ((h'.driverFor?_isSome_iff hon).1 hoffers.symm).symm

theorem name_of_driverFor? {node : NodeId} {required : String} (htarget : target.On node required)
    {d : RecordingDriver} (hd : b.driverFor? target = some d) :
    d.name = driverName b.id node := by
  unfold driverFor? at hd
  split at hd
  case h_1 => exact nomatch hd
  case h_2 first rest hpoints =>
    have hnode := htarget.node first (hpoints ▸ List.mem_cons_self)
    simp only at hd
    split at hd
    · cases hd
      rw [hnode]
    · exact nomatch hd

end RecordingBuilder

namespace Registry

/-- All builders make recording drivers, each for one driver family, and each family of a node has
one of them. -/
structure OnePerFamily (r : Registry Notice) (t : Topology) : Prop where
  recording : ∀ id b, r.bound id = some b →
    ∃ (maker : RecordingBuilder) (family : String),
      b = maker.toBuilder ∧ maker.id = id ∧ maker.Serves family
  one : ∀ n ∈ t.nodes, ∃! id, ∃ maker : RecordingBuilder,
    r.bound id = some maker.toBuilder ∧ maker.Serves n.driverId

namespace OnePerFamily

variable {r : Registry Notice} {t : Topology} {n : Node}

theorem keyed (h : r.OnePerFamily t) : r.Keyed := by
  intro id b hb
  obtain ⟨maker, -, rfl, hid, -⟩ := h.recording id b hb
  exact hid

/-- Of all builders one answers for a target of a node's driver family. -/
theorem exists_answering (h : r.OnePerFamily t) (hn : n ∈ t.nodes) :
    ∃ maker : RecordingBuilder, r.bound maker.id = some maker.toBuilder ∧
      maker.Serves n.driverId ∧
      ∀ {target : Target} {node : NodeId}, target.On node n.driverId → ∀ context,
        answering r.bound target context = {maker.id} := by
  obtain ⟨id, ⟨maker, hmaker, hserves⟩, hunique⟩ := h.one n hn
  obtain rfl : maker.id = id := h.keyed id _ hmaker
  refine ⟨maker, hmaker, hserves, fun {target node} htarget context => ?_⟩
  ext id
  rw [Set.mem_singleton_iff]
  constructor
  · rintro ⟨b, hb, hanswers⟩
    -- whoever answers has the driver family of the target, and only one builder has
    obtain ⟨other, family, rfl, -, hother⟩ := h.recording id b hb
    have hoffers : (other.driverFor? target).isSome := by
      rw [← Option.isSome_map]
      exact hanswers
    have hfamily : family = n.driverId := (hother.driverFor?_isSome_iff htarget).1 hoffers
    exact hunique id ⟨other, hb, hfamily ▸ hother⟩
  · rintro rfl
    refine ⟨maker.toBuilder, hmaker, ?_⟩
    have hoffers := (hserves.driverFor?_isSome_iff htarget).2 rfl
    rw [← Option.isSome_map (f := RecordingDriver.toDriver)] at hoffers
    exact hoffers

end OnePerFamily

end Registry

/-- With one builder for each driver family, every part of a decomposition gets its driver from the
builder of its family. -/
theorem drivers_of_decomposition {t : Topology} {endpoints : List ServiceEndPoint}
    {subs : List SubRequest} {r : Registry Notice}
    (hsubs : decompose t endpoints = .ok (some subs)) (hr : r.OnePerFamily t) :
    ∀ s ∈ subs, ∃ maker : RecordingBuilder, r.bound maker.id = some maker.toBuilder ∧
      maker.Serves s.driverId ∧ ∀ slot context, ∃ d,
        (r.select slot s context).result = .ok ⟨⟨slot, maker.id⟩, d⟩ ∧
        d.name = maker.id ++ "@" ++ s.nodeId := by
  obtain ⟨g, hg, hanswered⟩ := decompose_eq_ok hsubs
  obtain ⟨hconnected, vertices, hmem, rfl⟩ := hanswered.connected_of_some
  have hpartitions := Decomposition.partitions_of_connected hg hconnected hmem
  intro s hs
  obtain ⟨n, hn, -, hfamily⟩ := hpartitions.declared s hs
  obtain ⟨target, htarget, hon⟩ := (hpartitions.ordered s hs).exists_target_on
  rw [← hfamily] at hon ⊢
  obtain ⟨maker, hmaker, hserves, hanswering⟩ := hr.exists_answering hn
  refine ⟨maker, hmaker, hserves, fun slot context => ?_⟩
  obtain ⟨d, hd⟩ := Option.isSome_iff_exists.1 ((hserves.driverFor?_isSome_iff hon).2 rfl)
  refine ⟨d.toDriver, ?_, RecordingBuilder.name_of_driverFor? hon hd⟩
  rw [Registry.select, htarget]
  refine ((hr.keyed.selects slot target context).selected _).2
    ⟨maker.toBuilder, d.toDriver, hanswering hon context, hmaker, ?_, rfl⟩
  exact congrArg (Option.map RecordingDriver.toDriver) hd

/-- A builder of one driver family whose drivers do what they are asked to. -/
def familyBuilder (id family : String) : RecordingBuilder :=
  ⟨id, some family, TargetKind.all, 0, none, none⟩

theorem familyBuilder_serves (id family : String) : (familyBuilder id family).Serves family where
  kinds kind := by cases kind <;> simp [familyBuilder, TargetKind.all]
  family := rfl

/-- Two builders, for the two driver families of a linked pair. -/
def twoFamilies : Registry Notice :=
  ((Registry.empty.register (familyBuilder "x" "n1").toBuilder).1.register
    (familyBuilder "y" "n2").toBuilder).1

theorem bound_twoFamilies (id : String) :
    twoFamilies.bound id =
      if "y" = id then some (familyBuilder "y" "n2").toBuilder
      else if "x" = id then some (familyBuilder "x" "n1").toBuilder else none := by
  rw [Registry.bound, twoFamilies, Registry.getElem?_register, Registry.getElem?_register]
  rfl

theorem eq_or_eq_of_twoFamilies {maker : RecordingBuilder} {id family : String}
    (hserves : maker.Serves family) (hmaker : twoFamilies.bound id = some maker.toBuilder) :
    (id = "y" ∧ family = "n2") ∨ (id = "x" ∧ family = "n1") := by
  rw [bound_twoFamilies] at hmaker
  split at hmaker
  · have heq := Option.some.inj hmaker
    exact .inl ⟨Eq.symm ‹_›, hserves.family_eq (familyBuilder_serves "y" "n2") heq.symm⟩
  · split at hmaker
    · have heq := Option.some.inj hmaker
      exact .inr ⟨Eq.symm ‹_›, hserves.family_eq (familyBuilder_serves "x" "n1") heq.symm⟩
    · exact nomatch hmaker

theorem twoFamilies_onePerFamily : twoFamilies.OnePerFamily (Sample.linkedPair .enabled) where
  recording id b hb := by
    rw [bound_twoFamilies] at hb
    split at hb
    · cases hb
      exact ⟨_, _, rfl, ‹_›, familyBuilder_serves "y" "n2"⟩
    · split at hb
      · cases hb
        exact ⟨_, _, rfl, ‹_›, familyBuilder_serves "x" "n1"⟩
      · exact nomatch hb
  one n hn := by
    rcases List.mem_pair.1 hn with rfl | rfl
    · refine ⟨"x", ⟨_, bound_twoFamilies "x", familyBuilder_serves "x" "n1"⟩, ?_⟩
      rintro id ⟨maker, hmaker, hserves⟩
      rcases eq_or_eq_of_twoFamilies hserves hmaker with ⟨-, hfamily⟩ | ⟨hid, -⟩
      · exact absurd hfamily (by decide)
      · exact hid
    · refine ⟨"y", ⟨_, bound_twoFamilies "y", familyBuilder_serves "y" "n2"⟩, ?_⟩
      rintro id ⟨maker, hmaker, hserves⟩
      rcases eq_or_eq_of_twoFamilies hserves hmaker with ⟨hid, -⟩ | ⟨-, hfamily⟩
      · exact hid
      · exact absurd hfamily (by decide)

theorem twoFamilies_drive_pair :
    ∃ subs, decompose (Sample.linkedPair .enabled)
        [Sample.endPoint "n1:1", Sample.endPoint "n2:1"] = .ok (some subs) ∧
      twoFamilies.OnePerFamily (Sample.linkedPair .enabled) ∧
      subs.map (fun s => (s.nodeId, s.driverId)) = [("n1", "n1"), ("n2", "n2")] ∧
      ∀ s ∈ subs, ∃ maker : RecordingBuilder,
        twoFamilies.bound maker.id = some maker.toBuilder ∧ maker.Serves s.driverId ∧
        ∀ slot context, ∃ d, (twoFamilies.select slot s context).result =
            .ok ⟨⟨slot, maker.id⟩, d⟩ ∧ d.name = maker.id ++ "@" ++ s.nodeId := by
  have hsubs : decompose (Sample.linkedPair .enabled)
      [Sample.endPoint "n1:1", Sample.endPoint "n2:1"] = .ok (some
        [⟨"n1", "n1", [⟨some (Sample.endPoint "n1:1"), some (Sample.ref "n1:1")⟩]⟩,
          ⟨"n2", "n2", [⟨some (Sample.endPoint "n2:1"), some (Sample.ref "n2:1")⟩]⟩]) := by
    decide +kernel
  exact ⟨_, hsubs, twoFamilies_onePerFamily, rfl,
    drivers_of_decomposition hsubs twoFamilies_onePerFamily⟩

end Connectivity
