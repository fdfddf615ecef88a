import ActorMesh.ClusterError

/-!
# The configuration of a cluster

The members in a fixed order, the member this configuration is for, and the intervals and limits it
works with. The order decides which of two members dials the other.

`Config.validate` accepts a configuration with at least one member, numbers that are distinct and
not 0, a local member among them and a positive limit on frames (`validate_eq_ok_iff`).
-/

namespace ActorMesh

/-- One member of a cluster. -/
structure MemberConfig where
  id : SystemId
  host : String
  port : UInt16
  /-- The types of actors it hosts; a type named twice weighs double in placement. -/
  actorTypes : List ActorType
  deriving DecidableEq, Repr, Inhabited

/-- Intervals in milliseconds, and the limit on the payload of a frame. -/
structure Timings where
  /-- Between two attempts to link to a peer. -/
  reconnectInterval : Nat := 5000
  /-- Between two looks at whether all members are linked. -/
  startupPollInterval : Nat := 3000
  /-- How long a watch proxy that nobody needs stays. -/
  watchProxyIdle : Nat := 10000
  /-- How long dialing may take. -/
  connectTimeout : Nat := 5000
  /-- The longest payload of a frame. -/
  maxFrameSize : Nat := 16777216
  deriving DecidableEq, Repr

instance : Inhabited Timings := ⟨{}⟩

/-- A cluster as one member sees it. -/
structure Config where
  /-- The member this configuration is for. -/
  localId : SystemId
  /-- All members, in the order that decides who dials whom. -/
  members : List MemberConfig
  timings : Timings
  deriving DecidableEq, Repr, Inhabited

namespace Config

/-- The numbers of the members, in order. -/
def memberIds (c : Config) : List SystemId := c.members.map (·.id)

/-- The place of the local member among the members. -/
def localIndex? (c : Config) : Option Nat := c.members.findIdx? (·.id = c.localId)

/-- The local member. -/
def local? (c : Config) : Option MemberConfig := c.members.find? (·.id = c.localId)

/-- The first member whose number is 0 or that of an earlier one. -/
def memberFault? (seen : List SystemId) : List SystemId → Option ConfigFault
  | [] => none
  | s :: rest =>
    if s.isNone then some .reservedId
    else if s ∈ seen then some (.duplicateId s)
    else memberFault? (s :: seen) rest

/-- The first fault of a configuration. -/
def validate (c : Config) : Except ConfigFault Unit :=
  if c.members.isEmpty then .error .noMembers
  else
    match memberFault? [] c.memberIds with
    | some fault => .error fault
    | none =>
      if c.localId ∉ c.memberIds then .error (.localMissing c.localId)
      else if c.timings.maxFrameSize = 0 then .error .zeroFrameLimit
      else .ok ()

theorem memberFault?_eq_none_iff {seen ids : List SystemId} :
    memberFault? seen ids = none ↔
      (∀ s ∈ ids, s.isNone = false) ∧ ids.Nodup ∧ ∀ s ∈ ids, s ∉ seen := by
  induction ids generalizing seen with
  | nil => simp [memberFault?]
  | cons s rest ih =>
    unfold memberFault?
    cases hs : s.isNone with
    | true => simp [hs]
    | false =>
      by_cases hm : s ∈ seen
      · simp [hm]
      · simp only [Bool.false_eq_true, if_false, hm, ih, List.mem_cons, List.nodup_cons, not_or]
        constructor
        · rintro ⟨h0, hnd, hseen⟩
          refine ⟨?_, ⟨fun h => (hseen s h).1 rfl, hnd⟩, ?_⟩
          · rintro x (rfl | hx)
            · exact hs
            · exact h0 x hx
          · rintro x (rfl | hx)
            · exact hm
            · exact (hseen x hx).2
        · rintro ⟨h0, ⟨hns, hnd⟩, hseen⟩
          refine ⟨fun x hx => h0 x (.inr hx), hnd, fun x hx => ⟨?_, hseen x (.inr hx)⟩⟩
          rintro rfl
          exact hns hx

/-- What a valid configuration promises. -/
theorem validate_eq_ok_iff {c : Config} :
    c.validate = .ok () ↔ (∀ s ∈ c.memberIds, s.isNone = false) ∧ c.memberIds.Nodup ∧
      c.localId ∈ c.memberIds ∧ 0 < c.timings.maxFrameSize := by
  have hempty : c.members.isEmpty = true → c.localId ∉ c.memberIds := by
    intro h
    simp [memberIds, List.isEmpty_iff.1 h]
  unfold validate
  split
  · rename_i h
    simp [hempty h]
  · split
    · rename_i fault hf
      have : ¬ memberFault? [] c.memberIds = none := by simp [hf]
      rw [memberFault?_eq_none_iff] at this
      constructor
      · intro h; cases h
      · rintro ⟨h0, hnd, -⟩
        exact absurd ⟨h0, hnd, by simp⟩ this
    · rename_i hf
      obtain ⟨h0, hnd, -⟩ := memberFault?_eq_none_iff.1 hf
      split
      · rename_i hl
        simp [hl]
      · rename_i hl
        split
        · rename_i hz
          simp [hz]
        · rename_i hz
          simp only [true_iff]
          exact ⟨h0, hnd, Classical.not_not.1 hl, Nat.pos_of_ne_zero hz⟩

/-- A member whose configuration is valid is one in particular. -/
theorem isNone_localId {c : Config} (h : c.validate = .ok ()) : c.localId.isNone = false := by
  obtain ⟨hids, -, hlocal, -⟩ := validate_eq_ok_iff.1 h
  exact hids _ hlocal

end Config

end ActorMesh
