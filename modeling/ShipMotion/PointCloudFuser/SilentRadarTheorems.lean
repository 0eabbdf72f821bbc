import ShipMotion.PointCloudFuser.OrderTheorems

/-!
# One silent radar

The branches that send a single radar's frames stand behind the gate, and the gate asks both
caches for more than `FRAME_CACHE` frames. A radar that delivers nothing keeps its cache empty,
so the gate stays closed, nothing is sent at all, and the other cache grows until its oldest
frames are evicted.
-/

namespace ShipMotion
namespace PointCloudFuser

open Utils

variable {K : Type} {self : State K} {d : Delivery K}

/-! ## One iteration -/

/-- What the eviction loop keeps: all of the cache up to the bound. -/
theorem length_evictLoop_eq (drop : RawPointCloud K → Exit K) (cache : List (RawPointCloud K)) :
    (evictLoop drop cache).2.length = min cache.length maxCacheFrame := by
  induction cache with
  | nil => rfl
  | cons x cache ih =>
    rw [evictLoop]
    split
    · rename_i h
      show (evictLoop drop cache).2.length = _
      rw [List.length_cons] at h ⊢
      omega
    · rename_i h
      show (x :: cache).length = _
      omega

theorem length_intake_eq (drop : RawPointCloud K → Exit K) {cache : List (RawPointCloud K)}
    (h : cache.length ≤ maxCacheFrame) (data : Option (RawPointCloud K)) :
    (intake drop cache data).2.length = min (cache.length + data.toList.length) maxCacheFrame := by
  cases data with
  | none =>
    show cache.length = min (cache.length + 0) maxCacheFrame
    omega
  | some data =>
    show (evictLoop drop (cache ++ [data])).2.length = _
    rw [length_evictLoop_eq, List.length_append]
    rfl

/-- Without a frame of B the gate is closed. -/
theorem moveFrames_silentB (hB : self.cacheB_ = []) (hd : d.dataB = none) :
    moveFrames self d = ((intakeA self d).1, (intakeA self d).2, []) := by
  have hintake : intakeB self d = ([], []) := by
    rw [intakeB, hB, hd]
    rfl
  have hclosed : passesGate (intakeA self d).2 (intakeB self d).2 = false := by
    rw [hintake, passesGate, Bool.not_eq_false']
    exact Bool.or_true _
  rw [moveFrames_of_closed _ _ hclosed, hintake, List.append_nil]

theorem moveFrames_silentA (hA : self.cacheA_ = []) (hd : d.dataA = none) :
    moveFrames self d = ((intakeB self d).1, [], (intakeB self d).2) := by
  have hintake : intakeA self d = ([], []) := by
    rw [intakeA, hA, hd]
    rfl
  have hclosed : passesGate (intakeA self d).2 (intakeB self d).2 = false := by
    rw [hintake]
    rfl
  rw [moveFrames_of_closed _ _ hclosed, hintake, List.nil_append]

/-! ## Runs -/

section Runs

variable [CommRing K] {ds : List (Delivery K)} {X : Type} {sel : Exit K → Option X}

/-- One radar feeds its cache `own`, and the state stays one in which nothing is sent: what leaves
is evicted, and the cache holds what has arrived, up to the bound. -/
theorem run_silent {own : State K → List (RawPointCloud K)} {drop : RawPointCloud K → Exit K}
    {data : Delivery K → Option (RawPointCloud K)} {Silent : State K → Prop}
    {SilentAt : Delivery K → Prop}
    (hstep : ∀ self d, Silent self → SilentAt d →
      (moveFrames self d).1 = (intake drop (own self) (data d)).1 ∧
      own (fuseIteration self d).1 = (intake drop (own self) (data d)).2 ∧
      Silent (fuseIteration self d).1)
    (hsel : ∀ x, sel (drop x) = none) (hself : Silent self)
    (hlen : (own self).length ≤ maxCacheFrame) (hds : ∀ d ∈ ds, SilentAt d) :
    (runExits self ds).filterMap sel = [] ∧
    (own (runState self ds)).length
      = min ((own self).length + (ds.filterMap data).length) maxCacheFrame := by
  induction ds generalizing self with
  | nil =>
    refine ⟨rfl, ?_⟩
    show (own self).length = min ((own self).length + 0) maxCacheFrame
    omega
  | cons d ds ih =>
    have ⟨hexits, hown, hsilent⟩ := hstep self d hself (hds d List.mem_cons_self)
    have hintake := length_intake_eq drop hlen (data d)
    rw [← hown] at hintake
    -- the next state is silent and its cache in bounds again
    have hrest := @ih (fuseIteration self d).1 hsilent (by omega)
      fun d' hd' => hds d' (List.mem_cons_of_mem d hd')
    constructor
    · show ((moveFrames self d).1 ++ runExits (fuseIteration self d).1 ds).filterMap sel = []
      rw [List.filterMap_append, hrest.1, hexits, intake_other hsel]
      rfl
    · show (own (runState (fuseIteration self d).1 ds)).length = _
      rw [hrest.2, filterMap_cons_toList, List.length_append]
      omega

variable (sel) in
/-- With B silent nothing leaves but by eviction, and the cache of A holds what has arrived, up
to the bound. -/
theorem run_silentB (hsel : ∀ a, sel (.overflowA a) = none) (hB : self.cacheB_ = [])
    (hA : self.cacheA_.length ≤ maxCacheFrame) (hds : ∀ d ∈ ds, d.dataB = none) :
    (runExits self ds).filterMap sel = [] ∧
    (runState self ds).cacheA_.length
      = min (self.cacheA_.length + (ds.filterMap Delivery.dataA).length) maxCacheFrame := by
  have hstep : ∀ (self : State K) (d : Delivery K), self.cacheB_ = [] → d.dataB = none →
      (moveFrames self d).1 = (intakeA self d).1 ∧
      (fuseIteration self d).1.cacheA_ = (intakeA self d).2 ∧
      (fuseIteration self d).1.cacheB_ = [] := by
    intro self d hB hd
    show _ ∧ (moveFrames self d).2.1 = _ ∧ (moveFrames self d).2.2 = []
    rw [moveFrames_silentB hB hd]
    exact ⟨rfl, rfl, rfl⟩
  exact run_silent hstep hsel hB hA hds

variable (sel) in
theorem run_silentA (hsel : ∀ b, sel (.overflowB b) = none) (hA : self.cacheA_ = [])
    (hB : self.cacheB_.length ≤ maxCacheFrame) (hds : ∀ d ∈ ds, d.dataA = none) :
    (runExits self ds).filterMap sel = [] ∧
    (runState self ds).cacheB_.length
      = min (self.cacheB_.length + (ds.filterMap Delivery.dataB).length) maxCacheFrame := by
  have hstep : ∀ (self : State K) (d : Delivery K), self.cacheA_ = [] → d.dataA = none →
      (moveFrames self d).1 = (intakeB self d).1 ∧
      (fuseIteration self d).1.cacheB_ = (intakeB self d).2 ∧
      (fuseIteration self d).1.cacheA_ = [] := by
    intro self d hA hd
    show _ ∧ (moveFrames self d).2.2 = _ ∧ (moveFrames self d).2.1 = []
    rw [moveFrames_silentA hA hd]
    exact ⟨rfl, rfl, rfl⟩
  exact run_silent hstep hsel hA hB hds

/-- With one radar silent from the start, nothing is ever sent. -/
theorem silentRadar_sends_nothing (hA : self.cacheA_ = []) (hB : self.cacheB_ = [])
    (hds : (∀ d ∈ ds, d.dataB = none) ∨ ∀ d ∈ ds, d.dataA = none) :
    emitted self.T_B2A_ (runExits self ds) = [] := by
  rcases hds with hds | hds
  · refine (run_silentB _ (fun _ => rfl) hB ?_ hds).1
    rw [hA]
    exact Nat.zero_le _
  · refine (run_silentA _ (fun _ => rfl) hA ?_ hds).1
    rw [hB]
    exact Nat.zero_le _

omit [CommRing K] in
/-- What is left of an account is all of it exactly when it is as long. -/
theorem eq_iff_length_of_account {before out rest : List (RawPointCloud K)}
    (h : out ++ rest = before) : rest = before ↔ before.length ≤ rest.length := by
  constructor
  · intro heq
    rw [heq]
  · intro hlen
    have hsuffix : rest <:+ before := ⟨out, h⟩
    exact hsuffix.eq_of_length_le hlen

/-- **Single-radar operation.** In a run from empty caches in which one radar stays silent, every
frame of the other is sent alone, in order, or still in the cache exactly when it delivered at
most 30 frames. -/
theorem silentRadar_iff (self : State K) (ds : List (Delivery K)) (hA : self.cacheA_ = [])
    (hB : self.cacheB_ = []) :
    ((∀ d ∈ ds, d.dataB = none) →
      ((runExits self ds).filterMap Exit.loneA ++ (runState self ds).cacheA_
          = ds.filterMap Delivery.dataA ↔ (ds.filterMap Delivery.dataA).length ≤ 30)) ∧
    ((∀ d ∈ ds, d.dataA = none) →
      ((runExits self ds).filterMap Exit.loneB ++ (runState self ds).cacheB_
          = ds.filterMap Delivery.dataB ↔ (ds.filterMap Delivery.dataB).length ≤ 30)) := by
  have hframesA := run_framesA self ds
  have hframesB := run_framesB self ds
  rw [hA, List.nil_append] at hframesA
  rw [hB, List.nil_append] at hframesB
  constructor
  · intro hds
    obtain ⟨hlone, hlen⟩ := run_silentB Exit.loneA (fun _ => rfl) hB
      (by rw [hA]; exact Nat.zero_le _) hds
    -- nothing is sent alone, so the cache has to hold everything
    rw [hlone, List.nil_append, eq_iff_length_of_account hframesA, hlen, hA]
    show _ ≤ min (0 + _) 30 ↔ _
    omega
  · intro hds
    obtain ⟨hlone, hlen⟩ := run_silentA Exit.loneB (fun _ => rfl) hA
      (by rw [hB]; exact Nat.zero_le _) hds
    rw [hlone, List.nil_append, eq_iff_length_of_account hframesB, hlen, hB]
    show _ ≤ min (0 + _) 30 ↔ _
    omega

/-- `n` frames of A, and no frame of B. -/
def onlyFramesOfA (n : ℕ) : List (Delivery ℚ) :=
  (List.range n).map fun t => arrive (some (frameAt "A" (UInt64.ofNat t))) none

/-- Two frames are kept. -/
theorem silentRadar_iff_twoFrames :
    (runExits idleFuser (onlyFramesOfA 2)).filterMap Exit.loneA
      ++ (runState idleFuser (onlyFramesOfA 2)).cacheA_
      = (onlyFramesOfA 2).filterMap Delivery.dataA :=
  ((silentRadar_iff idleFuser (onlyFramesOfA 2) rfl rfl).1 (by decide)).mpr (by decide)

/-- The thirty-first frame costs the first one: nothing was sent, and it is not in the cache. -/
theorem silentRadar_evicts :
    (∀ d ∈ onlyFramesOfA 31, d.dataB = none) ∧
    (runExits idleFuser (onlyFramesOfA 31)).filterMap Exit.loneA = [] ∧
    (runExits idleFuser (onlyFramesOfA 31)).filterMap Exit.loneA
        ++ (runState idleFuser (onlyFramesOfA 31)).cacheA_
      ≠ (onlyFramesOfA 31).filterMap Delivery.dataA := by
  have hlone : (runExits idleFuser (onlyFramesOfA 31)).filterMap Exit.loneA = [] := rfl
  have hcache : (runState idleFuser (onlyFramesOfA 31)).cacheA_.length = 30 := rfl
  have hdelivered : ((onlyFramesOfA 31).filterMap Delivery.dataA).length = 31 := rfl
  refine ⟨by decide, hlone, fun heq => ?_⟩
  rw [hlone, List.nil_append] at heq
  rw [heq] at hcache
  omega

end Runs
end PointCloudFuser
end ShipMotion
