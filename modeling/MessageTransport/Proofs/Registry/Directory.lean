import Mathlib.Data.List.Nodup
import MessageTransport.Proofs.Registry
import MessageTransport.Registry.Trace

set_option autoImplicit false

namespace MessageTransport

theorem values_eq_map_toList {Key Value : Type} [Ord Key] (m : Std.TreeMap Key Value) :
    m.values = m.toList.map Prod.snd := by
  have folded : m.values = m.foldr (fun _ value rest => value :: rest) [] := rfl
  rw [folded, Std.TreeMap.foldr_eq_foldr_toList]
  induction m.toList with
  | nil => rfl
  | cons entry rest ih => exact congrArg (entry.2 :: ·) ih

namespace Registry

variable {Handle : Type}

/-- The live handles by endpoint, in any order. -/
structure Directory (Handle : Type) where
  entries : List (Endpoint × Handle)
  held : List Handle
  /-- The endpoints whose handle has been dropped, until something is asked or done there. -/
  lapsed : List Endpoint

namespace Directory

def empty : Directory Handle := ⟨[], [], []⟩

def lookUp (d : Directory Handle) (remote : Endpoint) : Option Handle :=
  (d.entries.find? (fun entry => entry.1 = remote)).map Prod.snd

/-- Without an endpoint. -/
def forget (d : Directory Handle) (remote : Endpoint) : Directory Handle :=
  { d with
    entries := d.entries.filter (fun entry => entry.1 ≠ remote)
    lapsed := d.lapsed.filter (fun other => other ≠ remote) }

/-- A handle is dropped, and all its entries go with it. -/
def drop [DecidableEq Handle] (d : Directory Handle) (h : Handle) : Directory Handle where
  entries := d.entries.filter (fun entry => entry.2 ≠ h)
  held := d.held.filter (fun other => other ≠ h)
  lapsed := (d.entries.filter (fun entry => entry.2 = h)).map Prod.fst ++ d.lapsed

def put (d : Directory Handle) (remote : Endpoint) (h : Handle) : Directory Handle :=
  { d.forget remote with entries := (remote, h) :: (d.forget remote).entries }

/-- The map after an operation. -/
def after [DecidableEq Handle] (d : Directory Handle) : Op Handle → Directory Handle
  | .hold h => { d with held := h :: d.held }
  | .release h => d.drop h
  | .insert remote h => if (d.lookUp remote).isSome then d else d.put remote h
  | .get remote | .contains remote => if (d.lookUp remote).isSome then d else d.forget remote
  | .remove remote => d.forget remote
  | .removeHandle remote h => if d.lookUp remote = some h then d.forget remote else d
  | .size | .isEmpty | .handles => d
  | .clear => { d with entries := [], lapsed := [] }

/-- Whether a reply is that of the map. Handles may be listed in any order. To take out what is
stored for an endpoint shows as well whether its handle has lapsed. -/
def Answers [DecidableEq Handle] (d : Directory Handle) : Op Handle → Reply Handle → Prop
  | .hold _, .done => True
  | .release h, .flag found => found = decide (h ∈ d.held)
  | .insert remote _, .flag inserted => inserted = (d.lookUp remote).isNone
  | .get remote, .handle found => found = d.lookUp remote
  | .contains remote, .flag found => found = (d.lookUp remote).isSome
  | .remove remote, .flag found =>
    found = ((d.lookUp remote).isSome || decide (remote ∈ d.lapsed))
  | .removeHandle remote h, .flag removed => removed = decide (d.lookUp remote = some h)
  | .size, .count n => n = d.entries.length
  | .isEmpty, .flag nothing => nothing = d.entries.isEmpty
  | .handles, .handles hs => hs.Perm (d.entries.map Prod.snd)
  | .clear, .done => True
  | _, _ => False

/-- Whether the replies of a run are those of the map. -/
def Agrees [DecidableEq Handle] : Directory Handle → List (Op Handle) → List (Reply Handle) → Prop
  | _, [], [] => True
  | d, op :: ops, reply :: replies => d.Answers op reply ∧ (d.after op).Agrees ops replies
  | _, _, _ => False

theorem mem_forget {d : Directory Handle} {remote : Endpoint} {entry : Endpoint × Handle} :
    entry ∈ (d.forget remote).entries ↔ entry ∈ d.entries ∧ entry.1 ≠ remote := by
  simp only [forget, List.mem_filter, decide_eq_true_eq]

theorem mem_lapsed_forget {d : Directory Handle} {remote other : Endpoint} :
    other ∈ (d.forget remote).lapsed ↔ other ∈ d.lapsed ∧ other ≠ remote := by
  simp only [forget, List.mem_filter, decide_eq_true_eq]

theorem lookUp_eq_some_iff {d : Directory Handle} (distinct : (d.entries.map Prod.fst).Nodup)
    {remote : Endpoint} {h : Handle} : d.lookUp remote = some h ↔ (remote, h) ∈ d.entries := by
  unfold lookUp
  rw [Option.map_eq_some_iff]
  constructor
  · rintro ⟨entry, found, rfl⟩
    have same := List.find?_some found
    obtain rfl := of_decide_eq_true same
    exact List.mem_of_find?_eq_some found
  · intro member
    cases found : d.entries.find? (fun entry => entry.1 = remote) with
    | none => exact absurd (decide_eq_true rfl) (List.find?_eq_none.mp found _ member)
    | some entry =>
      have same := List.find?_some found
      have same := of_decide_eq_true same
      have there := List.mem_of_find?_eq_some found
      exact ⟨entry, rfl, congrArg Prod.snd (List.inj_on_of_nodup_map distinct there member same)⟩

end Directory

/-- The entries of a map are those that a registry stores for handles which are held. What it stores
beside them has lapsed. All handles involved are known. -/
structure Represents (t : Trace Handle) (known : List Handle) (d : Directory Handle) : Prop where
  held : t.held = d.held
  heldKnown : ∀ h ∈ d.held, h ∈ known
  storedKnown : ∀ (remote : Endpoint) (h : Handle), t.registry.entries[remote]? = some h → h ∈ known
  distinct : (d.entries.map Prod.fst).Nodup
  entries : ∀ (remote : Endpoint) (h : Handle),
    (remote, h) ∈ d.entries ↔ t.registry.entries[remote]? = some h ∧ h ∈ d.held
  lapsed : ∀ remote : Endpoint,
    remote ∈ d.lapsed ↔ ∃ h, t.registry.entries[remote]? = some h ∧ h ∉ d.held

variable {t : Trace Handle} {known : List Handle} {d : Directory Handle}

theorem represents_empty : Represents (Trace.start : Trace Handle) [] Directory.empty where
  held := rfl
  heldKnown h member := by cases member
  storedKnown remote h there := by
    rw [show (Trace.start : Trace Handle).registry.entries[remote]? = none from
      Std.TreeMap.getElem?_emptyc] at there
    cases there
  distinct := List.nodup_nil
  entries remote h := by
    simp [Directory.empty]
  lapsed remote := by
    simp [Directory.empty, Trace.start, Registry.empty]

theorem Represents.lookUp_iff (represents : Represents t known d) {remote : Endpoint} {h : Handle} :
    d.lookUp remote = some h ↔ t.registry.entries[remote]? = some h ∧ h ∈ d.held :=
  (Directory.lookUp_eq_some_iff represents.distinct).trans (represents.entries remote h)

/-- An endpoint for which nothing is stored any more is not in the map. -/
theorem Represents.forget (represents : Represents t known d) {remote : Endpoint} {g : Registry Handle}
    (cleared : ∀ other, g.entries[other]? =
      if remote = other then none else t.registry.entries[other]?) :
    Represents { t with registry := g } known (d.forget remote) where
  held := represents.held
  heldKnown := represents.heldKnown
  storedKnown other h there := by
    rw [cleared] at there
    split at there
    · cases there
    · exact represents.storedKnown other h there
  distinct := represents.distinct.sublist (List.filter_sublist.map Prod.fst)
  entries other h := by
    rw [Directory.mem_forget, represents.entries, cleared]
    by_cases same : remote = other
    · simp [same]
    · simp [same, Ne.symm same, Directory.forget]
  lapsed other := by
    rw [Directory.mem_lapsed_forget, represents.lapsed]
    simp only [cleared]
    by_cases same : remote = other
    · simp [same]
    · simp [same, Ne.symm same, Directory.forget]

/-- A handle that is stored and held is in the map. -/
theorem Represents.put (represents : Represents t known d) {remote : Endpoint} {h : Handle}
    (holds : h ∈ d.held) :
    Represents { t with registry := ⟨t.registry.entries.insert remote h⟩ } known (d.put remote h) where
  held := represents.held
  heldKnown := represents.heldKnown
  storedKnown other h' there := by
    rw [getElem?_inserted] at there
    split at there
    · obtain rfl := Option.some.inj there
      exact represents.heldKnown h holds
    · exact represents.storedKnown other h' there
  distinct := by
    have rest := represents.distinct.sublist
      ((List.filter_sublist (p := fun entry => entry.1 ≠ remote)).map Prod.fst)
    refine List.nodup_cons.mpr ⟨?_, rest⟩
    intro member
    obtain ⟨entry, there, same⟩ := List.mem_map.mp member
    exact (Directory.mem_forget.mp there).2 same
  entries other h' := by
    have pushed : (other, h') ∈ (d.put remote h).entries ↔
        (other, h') = (remote, h) ∨ (other, h') ∈ (d.forget remote).entries := List.mem_cons
    rw [pushed, Directory.mem_forget, represents.entries, getElem?_inserted]
    by_cases same : remote = other
    · subst same
      simp only [Prod.mk.injEq, true_and, ne_eq, not_true_eq_false, and_false, or_false, ↓reduceIte,
        Option.some.injEq]
      constructor
      · rintro rfl
        exact ⟨rfl, holds⟩
      · exact fun both => both.1.symm
    · simp [same, Ne.symm same, Directory.put, Directory.forget]
  lapsed other := by
    have others : other ∈ (d.put remote h).lapsed ↔ other ∈ (d.forget remote).lapsed := Iff.rfl
    rw [others, Directory.mem_lapsed_forget, represents.lapsed]
    simp only [getElem?_inserted]
    by_cases same : remote = other
    · subst same
      simp only [ne_eq, not_true_eq_false, and_false, ↓reduceIte, Option.some.injEq, exists_eq_left',
        false_iff, not_not]
      exact holds
    · simp [same, Ne.symm same, Directory.put, Directory.forget]

/-- A new handle changes nothing for those that are stored. -/
theorem Represents.hold (represents : Represents t known d) {h : Handle} (fresh : h ∉ known) :
    Represents { t with held := h :: t.held } (h :: known) { d with held := h :: d.held } where
  held := congrArg (h :: ·) represents.held
  heldKnown other member := by
    rcases List.mem_cons.mp member with rfl | old
    · exact List.mem_cons_self
    · exact List.mem_cons_of_mem h (represents.heldKnown other old)
  storedKnown remote other there :=
    List.mem_cons_of_mem h (represents.storedKnown remote other there)
  distinct := represents.distinct
  entries remote other := by
    rw [represents.entries]
    apply and_congr_right
    intro there
    have apart : other ≠ h := fun same => fresh (same ▸ represents.storedKnown remote other there)
    simp [apart]
  lapsed remote := by
    rw [represents.lapsed]
    apply exists_congr
    intro other
    apply and_congr_right
    intro there
    have apart : other ≠ h := fun same => fresh (same ▸ represents.storedKnown remote other there)
    simp [apart]

/-- Where nothing is stored there is nothing to forget. -/
theorem clear_of_vacant {g : Registry Handle} {remote : Endpoint} (vacant : g.entries[remote]? = none)
    (other : Endpoint) :
    g.entries[other]? = if remote = other then none else g.entries[other]? := by
  split
  · rename_i same
    rw [← same, vacant]
  · rfl

theorem Represents.clear (represents : Represents t known d) :
    Represents { t with registry := t.registry.clear } known
      { d with entries := [], lapsed := [] } where
  held := represents.held
  heldKnown := represents.heldKnown
  storedKnown remote h there := by
    rw [show t.registry.clear.entries[remote]? = none from Std.TreeMap.getElem?_emptyc] at there
    cases there
  distinct := List.nodup_nil
  entries remote h := by
    simp [Registry.clear, Registry.empty]
  lapsed remote := by
    simp [Registry.clear, Registry.empty]

variable [DecidableEq Handle]

/-- The entries of a handle that is dropped lapse, wherever it is registered. -/
theorem Represents.release (represents : Represents t known d) (h : Handle) :
    Represents { t with held := t.held.filter (fun other => other ≠ h) } known (d.drop h) where
  held := congrArg (List.filter fun other => other ≠ h) represents.held
  heldKnown other member := represents.heldKnown other (List.mem_of_mem_filter member)
  storedKnown := represents.storedKnown
  distinct := represents.distinct.sublist (List.filter_sublist.map Prod.fst)
  entries remote other := by
    simp only [Directory.drop, List.mem_filter, decide_eq_true_eq, represents.entries, and_assoc]
  lapsed remote := by
    simp only [Directory.drop, List.mem_append, List.mem_map, List.mem_filter, decide_eq_true_eq,
      Prod.exists, exists_and_right, exists_eq_right, represents.entries, represents.lapsed]
    constructor
    · rintro (⟨there, -⟩ | ⟨other, there, dead⟩)
      · exact ⟨h, there, fun both => both.2 rfl⟩
      · exact ⟨other, there, fun both => dead both.1⟩
    · rintro ⟨other, there, gone⟩
      by_cases same : other = h
      · subst same
        by_cases lives : other ∈ d.held
        · exact .inl ⟨there, lives⟩
        · exact .inr ⟨other, there, lives⟩
      · exact .inr ⟨other, there, fun lives => gone ⟨lives, same⟩⟩

/-- What a registry stores for an endpoint, and what the map makes of it. -/
inductive Stored (t : Trace Handle) (d : Directory Handle) (remote : Endpoint) : Prop where
  | nothing (vacant : t.registry.entries[remote]? = none) (absent : d.lookUp remote = none)
      (kept : remote ∉ d.lapsed)
  | live {h : Handle} (there : t.registry.entries[remote]? = some h) (lives : t.live h = true)
      (found : d.lookUp remote = some h) (kept : remote ∉ d.lapsed)
  | dropped {h : Handle} (there : t.registry.entries[remote]? = some h) (dead : t.live h = false)
      (absent : d.lookUp remote = none) (lapsed : remote ∈ d.lapsed)

theorem Represents.live_iff (represents : Represents t known d) (h : Handle) :
    t.live h = true ↔ h ∈ d.held := by
  rw [Trace.live, decide_eq_true_eq, represents.held]

theorem Represents.stored (represents : Represents t known d) (remote : Endpoint) :
    Stored t d remote := by
  cases there : t.registry.entries[remote]? with
  | none =>
    refine .nothing there ?_ ?_
    · apply Option.eq_none_iff_forall_ne_some.mpr
      intro h found
      rw [represents.lookUp_iff, there] at found
      cases found.1
    · intro member
      obtain ⟨h, stored, -⟩ := (represents.lapsed remote).mp member
      rw [there] at stored
      cases stored
  | some h =>
    have only {other : Handle} (stored : t.registry.entries[remote]? = some other) : other = h :=
      Option.some.inj (stored.symm.trans there)
    by_cases lives : h ∈ d.held
    · refine .live there ((represents.live_iff h).mpr lives) (represents.lookUp_iff.mpr ⟨there, lives⟩) ?_
      intro member
      obtain ⟨other, stored, dead⟩ := (represents.lapsed remote).mp member
      rw [only stored] at dead
      exact dead lives
    · refine .dropped there (Bool.eq_false_iff.mpr (mt (represents.live_iff h).mp lives)) ?_
        ((represents.lapsed remote).mpr ⟨h, there, lives⟩)
      apply Option.eq_none_iff_forall_ne_some.mpr
      intro other found
      obtain ⟨stored, held⟩ := represents.lookUp_iff.mp found
      rw [only stored] at held
      exact lives held

/-- A look-up gives the live handle, and what is dead is taken out. -/
theorem Represents.get (represents : Represents t known d) (remote : Endpoint) :
    (t.registry.get t.live remote).1 = d.lookUp remote ∧
      Represents { t with registry := (t.registry.get t.live remote).2 } known
        (if (d.lookUp remote).isSome then d else d.forget remote) := by
  cases represents.stored remote with
  | nothing vacant absent kept =>
    simp only [Registry.get, vacant, absent, Option.isSome_none, Bool.false_eq_true, ↓reduceIte,
      true_and]
    exact represents.forget (clear_of_vacant vacant)
  | live there lives found kept =>
    simp only [Registry.get, there, lives, found, Option.isSome_some, ↓reduceIte, true_and]
    exact represents
  | dropped there dead absent lapsed =>
    simp only [Registry.get, there, dead, absent, Option.isSome_none, Bool.false_eq_true, ↓reduceIte,
      true_and]
    exact represents.forget (getElem?_erased t.registry.entries remote)

/-- A handle is put in unless a live one is there. -/
theorem Represents.insert (represents : Represents t known d) (remote : Endpoint) {h : Handle}
    (holds : h ∈ t.held) :
    (t.registry.insert t.live remote h).1 = (d.lookUp remote).isNone ∧
      Represents { t with registry := (t.registry.insert t.live remote h).2 } known
        (if (d.lookUp remote).isSome then d else d.put remote h) := by
  rw [represents.held] at holds
  cases represents.stored remote with
  | nothing vacant absent kept =>
    simp only [Registry.insert, vacant, absent, Option.any_none, Option.isNone_none,
      Option.isSome_none, Bool.false_eq_true, ↓reduceIte, true_and]
    exact represents.put holds
  | live there lives found kept =>
    simp only [Registry.insert, there, found, Option.any_some, lives, Option.isNone_some,
      Option.isSome_some, ↓reduceIte, true_and]
    exact represents
  | dropped there dead absent lapsed =>
    simp only [Registry.insert, there, absent, Option.any_some, dead, Option.isNone_none,
      Option.isSome_none, Bool.false_eq_true, ↓reduceIte, true_and]
    exact represents.put holds

theorem Represents.remove (represents : Represents t known d) (remote : Endpoint) :
    (t.registry.remove remote).1 = ((d.lookUp remote).isSome || decide (remote ∈ d.lapsed)) ∧
      Represents { t with registry := (t.registry.remove remote).2 } known (d.forget remote) := by
  refine ⟨?_, represents.forget (getElem?_erased t.registry.entries remote)⟩
  have stored : (t.registry.remove remote).1 = (t.registry.entries[remote]?).isSome :=
    Std.TreeMap.contains_eq_isSome_getElem?
  rw [stored]
  cases represents.stored remote with
  | nothing vacant absent kept => simp [vacant, absent, kept]
  | live there lives found kept => simp [there, found]
  | dropped there dead absent lapsed => simp [there, lapsed]

/-- Whoever holds a handle takes out this very handle, if it is registered. -/
theorem Represents.removeHandle (represents : Represents t known d) (remote : Endpoint) {h : Handle}
    (holds : h ∈ t.held) :
    (t.registry.removeHandle remote h).1 = decide (d.lookUp remote = some h) ∧
      Represents { t with registry := (t.registry.removeHandle remote h).2 } known
        (if d.lookUp remote = some h then d.forget remote else d) := by
  rw [represents.held] at holds
  have same : t.registry.entries[remote]? = some h ↔ d.lookUp remote = some h := by
    rw [represents.lookUp_iff]
    exact (and_iff_left holds).symm
  by_cases found : d.lookUp remote = some h
  · have there := same.mpr found
    simp only [Registry.removeHandle, there, found, decide_true, ↓reduceIte, true_and]
    exact represents.forget (getElem?_erased t.registry.entries remote)
  · have absent := mt same.mp found
    simp only [Registry.removeHandle, absent, found, decide_false, ↓reduceIte, true_and]
    exact represents

theorem Represents.handles (represents : Represents t known d) :
    (t.registry.handles t.live).Perm (d.entries.map Prod.snd) := by
  have listed : t.registry.handles t.live =
      (t.registry.entries.toList.filter (fun entry => t.live entry.2)).map Prod.snd := by
    rw [Registry.handles, values_eq_map_toList, List.filter_map]
    rfl
  rw [listed]
  apply List.Perm.map
  apply (List.perm_ext_iff_of_nodup ((nodup_toList _).filter _)
    (List.Nodup.of_map Prod.fst represents.distinct)).mpr
  intro entry
  rw [List.mem_filter, represents.live_iff, Std.TreeMap.mem_toList_iff_getElem?_eq_some]
  exact (represents.entries entry.1 entry.2).symm

/-- Whether a call can be made. A handle that comes to life is a new one, so that a dropped one
never comes back, and whoever gives a handle to the registry holds it. -/
def Op.Permitted (held known : List Handle) : Op Handle → Prop
  | .hold h => h ∉ known
  | .insert _ h | .removeHandle _ h => h ∈ held
  | _ => True

/-- The handles that are known after a call. -/
def Op.makesKnown (known : List Handle) : Op Handle → List Handle
  | .hold h => h :: known
  | _ => known

/-- Whether the calls of a run can be made. -/
def Trace.Lawful (t : Trace Handle) (known : List Handle) : List (Op Handle) → Prop
  | [] => True
  | op :: ops => op.Permitted t.held known ∧ (t.step op).1.Lawful (op.makesKnown known) ops

/-- Each operation gives the reply of the map and keeps the registry in step with it. -/
theorem Represents.step (represents : Represents t known d) {op : Op Handle}
    (permitted : op.Permitted t.held known) :
    d.Answers op (t.step op).2 ∧
      Represents (t.step op).1 (op.makesKnown known) (d.after op) := by
  cases op with
  | hold h => exact ⟨trivial, represents.hold permitted⟩
  | release h =>
    have held : t.live h = decide (h ∈ d.held) := by rw [Trace.live, represents.held]
    exact ⟨held, represents.release h⟩
  | insert remote h => exact represents.insert remote permitted
  | get remote => exact represents.get remote
  | contains remote =>
    obtain ⟨found, kept⟩ := represents.get remote
    exact ⟨congrArg Option.isSome found, kept⟩
  | remove remote => exact represents.remove remote
  | removeHandle remote h => exact represents.removeHandle remote permitted
  | size =>
    have many := represents.handles.length_eq
    rw [List.length_map] at many
    exact ⟨many, represents⟩
  | isEmpty =>
    have many := represents.handles.length_eq
    rw [List.length_map] at many
    refine ⟨?_, represents⟩
    show (t.registry.size t.live == 0) = d.entries.isEmpty
    rw [Registry.size, many, Bool.eq_iff_iff, beq_iff_eq, List.length_eq_zero_iff, List.isEmpty_iff]
  | handles => exact ⟨represents.handles, represents⟩
  | clear => exact ⟨trivial, represents.clear⟩

theorem Represents.run (represents : Represents t known d) {ops : List (Op Handle)}
    (lawful : t.Lawful known ops) : d.Agrees ops (t.run ops) := by
  induction ops generalizing t known d with
  | nil => trivial
  | cons op ops ih =>
    obtain ⟨permitted, rest⟩ := lawful
    obtain ⟨answers, kept⟩ := represents.step permitted
    exact ⟨answers, ih kept rest⟩

/-- Every run of a new registry, with handles that come to life and are dropped at any time in
between, agrees with the map of live handles. -/
theorem agrees_of_lawful {ops : List (Op Handle)}
    (lawful : (Trace.start : Trace Handle).Lawful [] ops) :
    Directory.empty.Agrees ops (Trace.start.run ops) :=
  represents_empty.run lawful

/-- The first handle is registered at two endpoints and dropped, the second takes its place at one
of them, and the third never gets in there. -/
def turnover : List (Op Nat) :=
  let near : Endpoint := ⟨.v4 1, 80⟩
  let far : Endpoint := ⟨.v4 2, 80⟩
  [.hold 1, .insert near 1, .insert far 1, .release 1, .size, .hold 2, .hold 3, .insert near 2,
    .insert near 3, .removeHandle near 3, .get near, .remove far]

theorem agrees_of_lawful_turnover :
    (Trace.start : Trace Nat).Lawful [] turnover ∧
      (Trace.start : Trace Nat).run turnover =
        [.done, .flag true, .flag true, .flag true, .count 0, .done, .done, .flag true, .flag false,
          .flag false, .handle (some 2), .flag true] ∧
      Directory.empty.Agrees turnover (Trace.start.run turnover) := by
  have lawful : (Trace.start : Trace Nat).Lawful [] turnover := by
    simp only [turnover, Trace.Lawful, Op.Permitted, true_and, and_true]
    decide
  exact ⟨lawful, by decide, agrees_of_lawful lawful⟩

end Registry

end MessageTransport
