import Connectivity.Proofs.Decomposition.Outcome
import Connectivity.Proofs.Service.Validity

/-!
# Which requests are admitted

A request for a new service is checked before it is decomposed, and decomposition checks it again.
The first check is exact: it passes what is acceptable and nothing else, and where values repeat it
names the one that is first to do so. What it passes under a usable configuration the second check
does not refuse, neither for too few endpoints nor for a sip that several of them name.
-/
namespace Connectivity

section Repetition

variable {α β : Type}

/-- The key of the item at a position, if it was the key of an item before it. -/
def RepeatsAt (key : α → Option β) (xs : List α) (i : Nat) (x : β) : Prop :=
  xs[i]?.bind key = some x ∧ x ∈ (xs.take i).filterMap key

/-- The key at the smallest position whose key occurred before. Items without a key are passed
over. -/
def RepeatsFirst (key : α → Option β) (xs : List α) (x : β) : Prop :=
  ∃ i, RepeatsAt key xs i x ∧ ∀ j < i, ∀ y, ¬ RepeatsAt key xs j y

theorem not_repeatsFirst_nil (key : α → Option β) (x : β) : ¬ RepeatsFirst key [] x := by
  rintro ⟨i, ⟨hkey, -⟩, -⟩
  exact nomatch hkey

variable [DecidableEq β]

theorem firstRepeated?_filterMap_eq_some_iff (key : α → Option β) (before : List β) (xs : List α)
    (x : β) :
    firstRepeated? before (xs.filterMap key) = some x ↔
      ∃ i, (xs[i]?.bind key = some x ∧ x ∈ before ++ (xs.take i).filterMap key) ∧
        ∀ j < i, ∀ y, ¬ (xs[j]?.bind key = some y ∧ y ∈ before ++ (xs.take j).filterMap key) := by
  induction xs generalizing before with
  | nil => simp [firstRepeated?]
  | cons a xs ih =>
      -- the position is that of `a`, or `a` does not repeat and it is among those of the others
      rw [← Nat.or_exists_add_one]
      simp only [Nat.forall_lt_succ_left, List.getElem?_cons_zero, List.getElem?_cons_succ,
        List.take_zero, List.take_succ_cons, Option.bind_some, List.filterMap_nil, List.append_nil]
      cases hkey : key a with
      | none => simp [hkey, ih]
      | some z =>
          simp only [List.filterMap_cons_some hkey, firstRepeated?, Option.some.injEq]
          by_cases hz : z ∈ before
          · rw [if_pos hz]
            constructor
            · rintro ⟨⟩
              exact .inl ⟨⟨rfl, hz⟩, fun j hj => absurd hj (Nat.not_lt_zero j)⟩
            · rintro (⟨⟨hx, -⟩, -⟩ | ⟨i, -, hnot, -⟩)
              · exact congrArg some hx
              · exact absurd ⟨rfl, hz⟩ (hnot z)
          · have hnot : ∀ y, ¬ (z = y ∧ y ∈ before) := by
              rintro y ⟨rfl, hy⟩
              exact hz hy
            rw [if_neg hz, ih]
            simp only [List.append_assoc, List.singleton_append, hnot, false_and, false_or,
              not_false_eq_true, implies_true, true_and]

theorem firstRepeated?_eq_some_iff (key : α → Option β) (xs : List α) (x : β) :
    firstRepeated? [] (xs.filterMap key) = some x ↔ RepeatsFirst key xs x :=
  firstRepeated?_filterMap_eq_some_iff key [] xs x

end Repetition

theorem append_ne {p q : String} (h : ¬ p.toList <+: q.toList) (a : String) : p ++ a ≠ q := by
  intro heq
  refine h ⟨a.toList, ?_⟩
  rw [← String.toList_append, heq]

/-- Texts with heads of which neither starts the other differ. -/
theorem append_ne_append {p q : String} (h : ¬ p.toList <+: q.toList) (h' : ¬ q.toList <+: p.toList)
    (a b : String) : p ++ a ≠ q ++ b := by
  intro heq
  have hlists : p.toList ++ a.toList = q.toList ++ b.toList := by
    rw [← String.toList_append, heq, String.toList_append]
  have hp : p.toList <+: q.toList ++ b.toList := hlists ▸ List.prefix_append _ _
  rcases List.prefix_or_prefix_of_prefix hp (List.prefix_append _ _) with hpq | hqp
  · exact h hpq
  · exact h' hqp

namespace Validation

variable {v : Validation} {message other : String}

@[simp] theorem mem_problem :
    other ∈ (v.problem message).problems ↔ other ∈ v.problems ∨ other = message := by
  simp [problem]

@[simp] theorem mem_problemIf {condition : Bool} :
    other ∈ (v.problemIf condition message).problems ↔
      other ∈ v.problems ∨ condition = true ∧ other = message := by
  cases condition <;> simp [problemIf, problem]

theorem not_mem_clean : message ∉ clean.problems := List.not_mem_nil

end Validation

namespace ValidationSettings

variable {settings : ValidationSettings} {r : CreateRequest}

theorem isValid_checkCreate_iff : (settings.checkCreate r).isValid = true ↔ settings.Accepts r := by
  rw [← checkCreate_ok_iff, Validation.toExcept_eq_ok_iff, Validation.isValid, List.isEmpty_iff]

/-- All that is said of a request. -/
theorem mem_checkCreate_problems_iff {message : String} :
    message ∈ (settings.checkCreate r).problems ↔
      (r.endpoints = [] ∧ message = "No endpoints specified for a connectivity service") ∨
      (r.endpoints ≠ [] ∧ r.endpoints.length < settings.minEndpoints ∧
        message = "At least " ++ toString settings.minEndpoints ++ " endpoints required, got " ++
          toString r.endpoints.length) ∨
      (settings.rejectDuplicateLocalIds = true ∧ ∃ id,
        RepeatsFirst (·.localId) r.endpoints id ∧ message = "A duplicate endpoint id: " ++ id) ∨
      ∃ sip, RepeatsFirst (fun e => some e.sip) r.endpoints sip ∧
        message = "A duplicate service interface point: " ++ sip := by
  by_cases hempty : r.endpoints = []
  · simp [checkCreate, hempty, not_repeatsFirst_nil, Validation.problem, Validation.clean]
  · have hsips : r.endpoints.filterMap (fun e => some e.sip) = r.endpoints.map (·.sip) :=
      List.filterMap_eq_map' ▸ rfl
    simp only [← firstRepeated?_eq_some_iff, hsips]
    rw [checkCreate, if_neg (mt List.isEmpty_iff.1 hempty)]
    cases firstRepeated? [] (r.endpoints.map (·.sip)) <;>
      cases settings.rejectDuplicateLocalIds <;>
      cases firstRepeated? [] (r.endpoints.filterMap (·.localId)) <;>
      simp [hempty, Validation.not_mem_clean, or_assoc]

theorem mem_duplicateId_iff {id : String} :
    "A duplicate endpoint id: " ++ id ∈ (settings.checkCreate r).problems ↔
      settings.rejectDuplicateLocalIds = true ∧ RepeatsFirst (·.localId) r.endpoints id := by
  rw [mem_checkCreate_problems_iff]
  constructor
  · rintro (⟨-, hempty⟩ | ⟨-, -, hcount⟩ | ⟨hreject, id', hrepeats, hid⟩ | ⟨sip, -, hsip⟩)
    · exact absurd hempty (append_ne (by decide) id)
    · rw [String.append_assoc, String.append_assoc] at hcount
      exact absurd hcount (append_ne_append (by decide) (by decide) _ _)
    · cases (String.append_right_inj _).1 hid
      exact ⟨hreject, hrepeats⟩
    · exact absurd hsip (append_ne_append (by decide) (by decide) _ _)
  · rintro ⟨hreject, hrepeats⟩
    exact .inr (.inr (.inl ⟨hreject, id, hrepeats, rfl⟩))

theorem mem_duplicateSip_iff {sip : SipId} :
    "A duplicate service interface point: " ++ sip ∈ (settings.checkCreate r).problems ↔
      RepeatsFirst (fun e => some e.sip) r.endpoints sip := by
  rw [mem_checkCreate_problems_iff]
  constructor
  · rintro (⟨-, hempty⟩ | ⟨-, -, hcount⟩ | ⟨-, id, -, hid⟩ | ⟨sip', hrepeats, hsip⟩)
    · exact absurd hempty (append_ne (by decide) sip)
    · rw [String.append_assoc, String.append_assoc] at hcount
      exact absurd hcount (append_ne_append (by decide) (by decide) _ _)
    · exact absurd hid (append_ne_append (by decide) (by decide) _ _)
    · cases (String.append_right_inj _).1 hsip
      exact hrepeats
  · exact fun hrepeats => .inr (.inr (.inr ⟨sip, hrepeats, rfl⟩))

end ValidationSettings

namespace Decomposition

variable {g : Graph} {endpoints : List ServiceEndPoint}

theorem sharedSip?_eq_none_of_nodup (h : (endpoints.map (·.sip)).Nodup) :
    sharedSip? [] endpoints = none :=
  sharedSip?_nil_eq_none_iff.2 fun _ he _ hf heq => List.inj_on_of_nodup_map h he hf heq

/-- What is wrong with an endpoint that cannot be resolved. -/
theorem resolve_eq_error {e : ServiceEndPoint} {error : Error} (h : resolve g e = .error error) :
    error = .failureResult ("Service interface point " ++ e.sip ++ " not found") ∨
      ∃ fault, error = .illegalArgument ("Port direction for " ++ fault) := by
  simp only [resolve] at h
  split at h
  case h_1 => exact .inl (Except.error.inj h).symm
  case h_2 v hv =>
    split at h
    case isTrue =>
      refine .inr ⟨e.label ++ " not specified", ?_⟩
      rw [← String.append_assoc]
      exact (Except.error.inj h).symm
    case isFalse =>
      split at h
      case isTrue => cases h
      case isFalse =>
        refine .inr ⟨e.label ++ (" incompatible with NEP. CEP " ++ (e.direction.name ++
          (" NEP " ++ v.direction.name))), ?_⟩
        simp only [← String.append_assoc]
        exact (Except.error.inj h).symm

/-- Why a request cannot be split in a graph. -/
theorem inGraph_eq_error {error : Error} (h : inGraph g endpoints = .error error) :
    (∃ message, error = .failureResult message) ∨
      (∃ fault, error = .illegalArgument ("Port direction for " ++ fault)) ∨
      ∃ sip, sharedSip? [] endpoints = some sip ∧ error = .illegalArgument
        ("Service interface point " ++ sip ++ " requested by more than one endpoint") := by
  by_cases hmissing : missingSips g endpoints = []
  · rcases mapM_except_cases (resolve g) endpoints with
      ⟨resolved, hresolved, -⟩ | ⟨fault, hresolved, e, -, hfault⟩
    · cases hshared : sharedSip? [] endpoints with
      | none =>
          simp only [inGraph, hmissing, hresolved, hshared, List.isEmpty_nil, if_true, bind,
            Except.bind] at h
          cases hpaths : paths? g (pairs resolved) <;> rw [hpaths] at h <;> cases h
      | some sip =>
          simp only [inGraph, hmissing, hresolved, hshared] at h
          exact .inr (.inr ⟨sip, rfl, (Except.error.inj h).symm⟩)
    · simp only [inGraph, hmissing, hresolved] at h
      cases Except.error.inj h
      exact (resolve_eq_error hfault).imp (fun hmessage => ⟨_, hmessage⟩) .inl
  · simp only [inGraph, List.isEmpty_eq_false_iff.2 hmissing] at h
    exact .inl ⟨_, (Except.error.inj h).symm⟩

end Decomposition

open Decomposition

/-- Why a request cannot be split over a topology. -/
theorem decompose_eq_error {t : Topology} {endpoints : List ServiceEndPoint} {error : Error}
    (h : decompose t endpoints = .error error) :
    error = .illegalArgument "there should be at least two endpoints defined" ∨
      (∃ message, error = .failureResult message) ∨
      (∃ fault, error = .illegalArgument ("Port direction for " ++ fault)) ∨
      ∃ sip, sharedSip? [] endpoints = some sip ∧ error = .illegalArgument
        ("Service interface point " ++ sip ++ " requested by more than one endpoint") := by
  by_cases hfew : endpoints.length < 2
  · rw [decompose_of_few hfew] at h
    exact .inl (Except.error.inj h).symm
  have htwo := Nat.not_lt.1 hfew
  by_cases hnodes : t.nodes = []
  · rw [decompose_of_no_nodes htwo hnodes] at h
    exact .inr (.inl ⟨_, (Except.error.inj h).symm⟩)
  · obtain ⟨g, hg⟩ := (Graph.exists_ofTopology_eq_ok_iff t).2 hnodes
    rw [decompose_of_graph htwo hg] at h
    exact .inr (inGraph_eq_error h)

/-- Endpoints of different sips are not refused for a sip that they share. -/
theorem decompose_ne_sharedSip {endpoints : List ServiceEndPoint}
    (h : (endpoints.map (·.sip)).Nodup) (t : Topology) (sip : SipId) :
    decompose t endpoints ≠ .error (.illegalArgument
      ("Service interface point " ++ sip ++ " requested by more than one endpoint")) := by
  intro herror
  rw [String.append_assoc] at herror
  rcases decompose_eq_error herror with hfew | ⟨message, hmessage⟩ | ⟨fault, hfault⟩ |
    ⟨shared, hshared, -⟩
  · exact append_ne (by decide) _ (Error.illegalArgument.inj hfew)
  · exact nomatch hmessage
  · exact append_ne_append (by decide) (by decide) _ _ (Error.illegalArgument.inj hfault)
  · rw [sharedSip?_eq_none_of_nodup h] at hshared
    exact nomatch hshared

theorem Config.two_le_of_validate {c : Config} (h : c.validate = .ok ()) :
    2 ≤ c.validation.minEndpoints := by
  simp only [validate] at h
  split at h
  case isTrue => exact nomatch h
  case isFalse =>
    split at h
    case isTrue => exact nomatch h
    case isFalse hmin => exact Nat.not_lt.1 hmin

/-- A request is valid if it has endpoints, and enough of them, whose local ids differ where they
must and whose sips differ. Of values that repeat the first one to do so is reported. What is valid
under a usable configuration has the endpoints that decomposition asks for, and is refused over no
topology for a sip that is shared. -/
theorem checkCreate_agrees :
    (∀ (settings : ValidationSettings) (r : CreateRequest),
      ((settings.checkCreate r).isValid = true ↔
        r.endpoints ≠ [] ∧ settings.minEndpoints ≤ r.endpoints.length ∧
          (settings.rejectDuplicateLocalIds = true →
            (r.endpoints.filterMap (·.localId)).Nodup) ∧
          (r.endpoints.map (·.sip)).Nodup) ∧
      (∀ id, "A duplicate endpoint id: " ++ id ∈ (settings.checkCreate r).problems ↔
        settings.rejectDuplicateLocalIds = true ∧ RepeatsFirst (·.localId) r.endpoints id) ∧
      ∀ sip, "A duplicate service interface point: " ++ sip ∈ (settings.checkCreate r).problems ↔
        RepeatsFirst (fun e => some e.sip) r.endpoints sip) ∧
    ∀ (config : Config) (r : CreateRequest), config.validate = .ok () →
      (config.validation.checkCreate r).isValid = true →
        checkCount r.endpoints = .ok () ∧
        ∀ (t : Topology) (sip : SipId),
          decompose t r.endpoints ≠ .error (.illegalArgument
            ("Service interface point " ++ sip ++ " requested by more than one endpoint")) := by
  refine ⟨fun settings r => ⟨?valid, fun id => ?ids, fun sip => ?sips⟩,
    fun config r husable hvalid => ⟨?count, fun t sip => ?shared⟩⟩
  case valid =>
    rw [ValidationSettings.isValid_checkCreate_iff]
    exact ⟨fun h => ⟨h.nonempty, h.enough, h.localIds, h.sips⟩,
      fun ⟨hnonempty, henough, hids, hsips⟩ => ⟨hnonempty, henough, hids, hsips⟩⟩
  case ids => exact ValidationSettings.mem_duplicateId_iff
  case sips => exact ValidationSettings.mem_duplicateSip_iff
  case count =>
    have htwo := (Config.two_le_of_validate husable).trans
      (ValidationSettings.isValid_checkCreate_iff.1 hvalid).enough
    rw [checkCount, if_neg (Nat.not_lt.2 htwo)]
  case shared =>
    exact decompose_ne_sharedSip (ValidationSettings.isValid_checkCreate_iff.1 hvalid).sips t sip

/-- A request between two nodes is valid by default. -/
theorem linkedPair_admitted :
    (({} : Config).validate = .ok () ∧
      (({} : Config).validation.checkCreate
        ⟨[Sample.endPoint "n1:1", Sample.endPoint "n2:1"], none, false⟩).isValid = true) ∧
    checkCount [Sample.endPoint "n1:1", Sample.endPoint "n2:1"] = .ok () ∧
    ∀ (t : Topology) (sip : SipId),
      decompose t [Sample.endPoint "n1:1", Sample.endPoint "n2:1"] ≠ .error (.illegalArgument
        ("Service interface point " ++ sip ++ " requested by more than one endpoint")) := by
  have husable : ({} : Config).validate = .ok () := by decide +kernel
  have hvalid : (({} : Config).validation.checkCreate
      ⟨[Sample.endPoint "n1:1", Sample.endPoint "n2:1"], none, false⟩).isValid = true := by
    decide +kernel
  exact ⟨⟨husable, hvalid⟩, checkCreate_agrees.2 _ _ husable hvalid⟩

/-- Both sips occur twice, and the second one is the first to do so. -/
example : ((⟨false, 2⟩ : ValidationSettings).checkCreate
    ⟨["n1:1", "n2:1", "n2:1", "n1:1"].map Sample.endPoint, none, false⟩).problems =
      ["A duplicate service interface point: sip:n2:1"] := by decide +kernel

end Connectivity
