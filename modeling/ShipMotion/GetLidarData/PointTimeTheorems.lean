import Mathlib.Tactic.FieldSimp
import Mathlib.Tactic.GCongr
import Mathlib.Data.Rat.Floor
import ShipMotion.GetLidarData.FrameTheorems

/-!
# The times of the points

The points of a packet are spread over the time since the packet before: with times that do not go
back, every point lies between the two, and later records have later points. So in the whole stream
the times of the points never go back, nor do they in a frame, stacked or not.
-/

namespace ShipMotion
namespace GetLidarData

open Utils

section Times

variable {K : Type} [Field K] [LinearOrder K] [FloorRing K] [IsStrictOrderedRing K]

/-- A number that lies between two of `uint64_t` is converted to one between them. -/
theorem toU64_bounds (m : Platform K) {x : K} {lo hi : UInt64} (hlo : (lo.toNat : K) ≤ x)
    (hhi : x ≤ hi.toNat) : (m.toU64 x).toNat = ⌊x⌋.toNat ∧ lo ≤ m.toU64 x ∧ m.toU64 x ≤ hi := by
  have hx : 0 ≤ x := le_trans (Nat.cast_nonneg _) hlo
  have htrunc : trunc x = ⌊x⌋ := if_pos hx
  have hfloorLo : (lo.toNat : ℤ) ≤ ⌊x⌋ := Int.le_floor.mpr (by exact_mod_cast hlo)
  have hfloorHi : ⌊x⌋ ≤ (hi.toNat : ℤ) := by
    have h := (Int.floor_le x).trans hhi
    exact_mod_cast h
  have hword := hi.toNat_lt
  have heq : m.toU64 x = UInt64.ofNat ⌊x⌋.toNat := by
    unfold Platform.toU64
    rw [htrunc, if_pos (by omega)]
  have hnat : (m.toU64 x).toNat = ⌊x⌋.toNat := by
    have hlt : ⌊x⌋.toNat < 2 ^ 64 := by omega
    rw [heq, UInt64.toNat_ofNat_of_lt' hlt]
  refine ⟨hnat, ?_, ?_⟩
  · rw [UInt64.le_iff_toNat_le, hnat]
    omega
  · rw [UInt64.le_iff_toNat_le, hnat]
    omega

/-- The number that is converted to the time of a point. -/
def exactTime (allTimestamp lastAllTimestamp : UInt64) (records k : ℕ) : K :=
  (allTimestamp.toNat : K)
    - pointInterval allTimestamp lastAllTimestamp records * ((records - 1 - k : ℕ) : K)

theorem pointInterval_nonneg (allTimestamp lastAllTimestamp : UInt64) (records : ℕ) :
    (0 : K) ≤ pointInterval allTimestamp lastAllTimestamp records := by
  unfold pointInterval
  positivity

omit [IsStrictOrderedRing K] in
/-- The points of a packet fill the time since the last one. -/
theorem pointInterval_mul {allTimestamp lastAllTimestamp : UInt64}
    (h : lastAllTimestamp ≤ allTimestamp) {records : ℕ} (hr : 0 < records) :
    (pointInterval allTimestamp lastAllTimestamp records : K) * records
      = allTimestamp.toNat - lastAllTimestamp.toNat := by
  have hle := UInt64.le_iff_toNat_le.mp h
  have hne : (records : K) ≠ 0 := by exact_mod_cast hr.ne'
  unfold pointInterval
  rw [UInt64.toNat_sub_of_le _ _ h, Nat.cast_sub hle, div_mul_cancel₀ _ hne]
  norm_num

theorem exactTime_bounds {allTimestamp lastAllTimestamp : UInt64}
    (h : lastAllTimestamp ≤ allTimestamp) {records : ℕ} (hr : 0 < records) (k : ℕ) :
    (lastAllTimestamp.toNat : K) ≤ exactTime allTimestamp lastAllTimestamp records k ∧
      (exactTime allTimestamp lastAllTimestamp records k : K) ≤ allTimestamp.toNat := by
  have hnonneg : (0 : K) ≤ pointInterval allTimestamp lastAllTimestamp records :=
    pointInterval_nonneg _ _ _
  have hfill : (pointInterval allTimestamp lastAllTimestamp records : K) * records = _ :=
    pointInterval_mul h hr
  have hcount : ((records - 1 - k : ℕ) : K) ≤ records := by
    exact_mod_cast (Nat.sub_le _ _).trans (Nat.sub_le _ _)
  have hpart := mul_le_mul_of_nonneg_left hcount hnonneg
  have hpartNonneg := mul_nonneg hnonneg (Nat.cast_nonneg (α := K) (records - 1 - k))
  unfold exactTime
  constructor <;> linarith

theorem exactTime_mono (allTimestamp lastAllTimestamp : UInt64) (records : ℕ) {j k : ℕ}
    (h : j ≤ k) :
    (exactTime allTimestamp lastAllTimestamp records j : K)
      ≤ exactTime allTimestamp lastAllTimestamp records k := by
  have hcount : ((records - 1 - k : ℕ) : K) ≤ ((records - 1 - j : ℕ) : K) := by
    exact_mod_cast Nat.sub_le_sub_left h _
  have hpart := mul_le_mul_of_nonneg_left hcount
    (pointInterval_nonneg (K := K) allTimestamp lastAllTimestamp records)
  unfold exactTime
  linarith

/-- The times of the points of a packet lie between the times of the packets. -/
theorem pointTime_bounds (m : Platform K) {allTimestamp lastAllTimestamp : UInt64}
    (h : lastAllTimestamp ≤ allTimestamp) {records : ℕ} (hr : 0 < records) (k : ℕ) :
    lastAllTimestamp ≤ pointTime m allTimestamp lastAllTimestamp records k ∧
      pointTime m allTimestamp lastAllTimestamp records k ≤ allTimestamp :=
  (toU64_bounds m (exactTime_bounds h hr k).1 (exactTime_bounds h hr k).2).2

/-- Later records have later points. -/
theorem pointTime_mono (m : Platform K) {allTimestamp lastAllTimestamp : UInt64}
    (h : lastAllTimestamp ≤ allTimestamp) {records : ℕ} (hr : 0 < records) {j k : ℕ}
    (hjk : j ≤ k) :
    pointTime m allTimestamp lastAllTimestamp records j
      ≤ pointTime m allTimestamp lastAllTimestamp records k := by
  have hj := toU64_bounds m (exactTime_bounds h hr j).1 (exactTime_bounds h hr j).2
  have hk := toU64_bounds m (exactTime_bounds h hr k).1 (exactTime_bounds h hr k).2
  have hfloor := Int.floor_mono (exactTime_mono (K := K) allTimestamp lastAllTimestamp records hjk)
  rw [UInt64.le_iff_toNat_le]
  refine hj.1.trans_le (le_trans ?_ hk.1.ge)
  exact Int.toNat_le_toNat hfloor

end Times

/-! ## The times of the stream -/

section Stream

variable {K : Type}

/-- Points whose times do not go back, within two bounds. -/
structure TimedWithin (lo hi : UInt64) (points : List (MuchLidarData K)) : Prop where
  sorted : (points.map (·.Mtimestamp_nsce)).Pairwise (· ≤ ·)
  lower : ∀ p ∈ points, lo ≤ p.Mtimestamp_nsce
  upper : ∀ p ∈ points, p.Mtimestamp_nsce ≤ hi

theorem TimedWithin.nil (lo hi : UInt64) : TimedWithin lo hi ([] : List (MuchLidarData K)) :=
  ⟨List.Pairwise.nil, List.forall_mem_nil _, List.forall_mem_nil _⟩

/-- Points up to a time, then points from that time on. -/
theorem TimedWithin.append {lo mid hi : UInt64} {ps qs : List (MuchLidarData K)}
    (hps : TimedWithin lo mid ps) (hqs : TimedWithin mid hi qs) (hlo : lo ≤ mid) (hhi : mid ≤ hi) :
    TimedWithin lo hi (ps ++ qs) := by
  refine ⟨?_, fun p hp => ?_, fun p hp => ?_⟩
  · rw [List.map_append, List.pairwise_append]
    refine ⟨hps.sorted, hqs.sorted, fun s hs t ht => ?_⟩
    obtain ⟨p, hp, rfl⟩ := List.mem_map.mp hs
    obtain ⟨q, hq, rfl⟩ := List.mem_map.mp ht
    exact UInt64.le_trans (hps.upper p hp) (hqs.lower q hq)
  · rcases List.mem_append.mp hp with hp | hp
    · exact hps.lower p hp
    · exact UInt64.le_trans hlo (hqs.lower p hp)
  · rcases List.mem_append.mp hp with hp | hp
    · exact UInt64.le_trans (hps.upper p hp) hhi
    · exact hqs.upper p hp

/-- Points of one time. -/
theorem TimedWithin.of_forall_eq {time : UInt64} {ps : List (MuchLidarData K)}
    (h : ∀ p ∈ ps, p.Mtimestamp_nsce = time) : TimedWithin time time ps := by
  have hmap : ∀ s ∈ ps.map (·.Mtimestamp_nsce), s = time := by
    intro s hs
    obtain ⟨p, hp, rfl⟩ := List.mem_map.mp hs
    exact h p hp
  refine ⟨List.pairwise_of_forall_mem_list fun s hs t ht => ?_, fun p hp => ?_, fun p hp => ?_⟩
  · rw [hmap s hs, hmap t ht]
    exact UInt64.le_refl time
  · rw [h p hp]
    exact UInt64.le_refl time
  · rw [h p hp]
    exact UInt64.le_refl time

theorem TimedWithin.weaken {lo lo' hi hi' : UInt64} {ps : List (MuchLidarData K)}
    (h : TimedWithin lo hi ps) (hlo : lo' ≤ lo) (hhi : hi ≤ hi') : TimedWithin lo' hi' ps :=
  ⟨h.sorted, fun p hp => UInt64.le_trans hlo (h.lower p hp),
    fun p hp => UInt64.le_trans (h.upper p hp) hhi⟩

/-- The points of a record, if it has any, are those that were computed for it. -/
theorem mem_points_of_recordItem {self : Settings K} {r : Head}
    {points : Option (List (MuchLidarData K))} {item : Item K}
    (h : recordItem self r points = some item) {p : MuchLidarData K} (hp : p ∈ item.points) :
    ∃ ps ∈ points, p ∈ ps := by
  unfold recordItem at h
  split_ifs at h
  · cases h
    cases hp
  · cases h
    cases hp
  · obtain ⟨ps, hps, rfl⟩ := Option.map_eq_some_iff.mp h
    exact ⟨ps, hps, hp⟩

/-- Records whose times do not go back have points whose times do not go back. -/
theorem timedWithin_of_mapM {self : Settings K} {I : Type} {head : I → Head}
    {points : I → Option (List (MuchLidarData K))} {time : I → UInt64} {hi : UInt64}
    (htime : ∀ k, ∀ ps ∈ points k, ∀ p ∈ ps, p.Mtimestamp_nsce = time k)
    (hhi : ∀ k, time k ≤ hi) {ks : List I} (hks : ks.Pairwise fun j k => time j ≤ time k)
    {items : List (Item K)}
    (h : (ks.mapM fun k => recordItem self (head k) (points k)) = some items)
    {lo : UInt64} (hlo : ∀ k ∈ ks, lo ≤ time k) (hlohi : lo ≤ hi) :
    TimedWithin lo hi (items.flatMap Item.points) := by
  induction ks generalizing items lo with
  | nil =>
    rw [List.mapM_nil, Option.pure_def, Option.some.injEq] at h
    subst h
    exact .nil lo hi
  | cons k ks ih =>
    rw [List.mapM_cons] at h
    obtain ⟨item, hitem, h⟩ := Option.bind_eq_some_iff.mp h
    obtain ⟨rest, hrest, h⟩ := Option.bind_eq_some_iff.mp h
    rw [Option.pure_def, Option.some.injEq] at h
    subst h
    rw [List.pairwise_cons] at hks
    have hfirst : TimedWithin (time k) (time k) item.points := .of_forall_eq fun p hp => by
      obtain ⟨ps, hps, hp⟩ := mem_points_of_recordItem hitem hp
      exact htime k ps hps p hp
    rw [List.flatMap_cons]
    have hlok := hlo k List.mem_cons_self
    -- the later records start at the time of this one
    exact (hfirst.weaken hlok (UInt64.le_refl _)).append
      (ih hks.2 hrest hks.1 (hhi k)) hlok (hhi k)

end Stream

/-! ## Runs -/

section Runs

variable {K : Type} [Field K] [LinearOrder K] [FloorRing K]

theorem time_singlePoints {m : Platform K} {self : Settings K}
    {allTimestamp lastAllTimestamp : UInt64} {data : Packet} {k : Fin EchoFormat.single.records}
    {ps : List (MuchLidarData K)}
    (h : ps ∈ singlePoints m self allTimestamp lastAllTimestamp data k) :
    ∀ p ∈ ps, p.Mtimestamp_nsce
      = pointTime m allTimestamp lastAllTimestamp EchoFormat.single.records k := by
  obtain ⟨v, -, hv⟩ := Option.bind_eq_some_iff.mp h
  cases hv
  simp

theorem time_doublePoints {m : Platform K} {self : Settings K}
    {allTimestamp lastAllTimestamp : UInt64} {data : Packet} {k : Fin EchoFormat.double.records}
    {ps : List (MuchLidarData K)}
    (h : ps ∈ doublePoints m self allTimestamp lastAllTimestamp data k) :
    ∀ p ∈ ps, p.Mtimestamp_nsce
      = pointTime m allTimestamp lastAllTimestamp EchoFormat.double.records k := by
  obtain ⟨v, -, hv⟩ := Option.bind_eq_some_iff.mp h
  cases hv
  simp

variable [IsStrictOrderedRing K]

/-- The points of a packet lie between the time of the last packet and its own. -/
theorem timedWithin_packetItems {m : Platform K} {self : Settings K} {f : EchoFormat}
    {data : Packet} {points : Fin f.records → Option (List (MuchLidarData K))}
    {allTimestamp lastAllTimestamp : UInt64} (h : lastAllTimestamp ≤ allTimestamp)
    (hf : 0 < f.records)
    (htime : ∀ k, ∀ ps ∈ points k, ∀ p ∈ ps, p.Mtimestamp_nsce
      = pointTime m allTimestamp lastAllTimestamp f.records k)
    {items : List (Item K)} (hitems : packetItems self f data points = some items) :
    TimedWithin lastAllTimestamp allTimestamp (items.flatMap Item.points) := by
  refine timedWithin_of_mapM htime (fun k => (pointTime_bounds m h hf k).2) ?_ hitems
    (fun k _ => (pointTime_bounds m h hf k).1) h
  exact (List.pairwise_lt_finRange f.records).imp fun hjk => pointTime_mono m h hf hjk.le

/-- The times of the data packets among some packets. -/
def dataTimes (packets : List Packet) : List UInt64 :=
  (packets.filter fun data => !isDevicePacket data).map packetTime

theorem dataTimes_cons (data : Packet) (packets : List Packet) :
    dataTimes (data :: packets) =
      if isDevicePacket data then dataTimes packets else packetTime data :: dataTimes packets := by
  unfold dataTimes
  rw [List.filter_cons]
  split_ifs <;> simp_all

/-- The points of a list of packets, in order of time from the last packet before them on. -/
theorem timedWithin_readPackets (m : Platform K) {s : Reader K} {packets : List Packet}
    (hfirst : ∀ t ∈ dataTimes packets, s.lastAllTimestamp ≤ t)
    (hsorted : (dataTimes packets).Pairwise (· ≤ ·)) {items : List (Item K)}
    (h : readPackets m s packets = some items) :
    ∃ hi, s.lastAllTimestamp ≤ hi ∧
      TimedWithin s.lastAllTimestamp hi (items.flatMap Item.points) := by
  induction packets generalizing s items with
  | nil =>
    cases h
    exact ⟨s.lastAllTimestamp, UInt64.le_refl _, .nil _ _⟩
  | cons data packets ih =>
    obtain ⟨⟨u, first⟩, hread, h⟩ := Option.bind_eq_some_iff.mp h
    obtain ⟨rest, hrest, h⟩ := Option.bind_eq_some_iff.mp h
    cases h
    rw [dataTimes_cons] at hfirst hsorted
    unfold readPacket at hread
    by_cases hdevice : isDevicePacket data = true
    · -- a device packet has no points and leaves the time of the last packet
      rw [if_pos hdevice] at hread hfirst hsorted
      cases hread
      exact ih (s := ⟨s.settings.devicePacket data, s.lastAllTimestamp⟩) hfirst hsorted hrest
    rw [if_neg hdevice] at hread hfirst hsorted
    dsimp only at hread
    obtain ⟨items, hitems, hu⟩ := Option.map_eq_some_iff.mp hread
    cases hu
    rw [List.pairwise_cons] at hsorted
    have hlast : s.lastAllTimestamp ≤ packetTime data := hfirst _ List.mem_cons_self
    have hpacket : TimedWithin s.lastAllTimestamp (packetTime data)
        (first.flatMap Item.points) := by
      split_ifs at hitems
      · exact timedWithin_packetItems hlast (show 0 < EchoFormat.double.records by decide)
          (fun k ps hps => time_doublePoints hps) hitems
      · exact timedWithin_packetItems hlast (show 0 < EchoFormat.single.records by decide)
          (fun k ps hps => time_singlePoints hps) hitems
    obtain ⟨hi, hhi, hlater⟩ := ih hsorted.1 hsorted.2 hrest
    refine ⟨hi, UInt64.le_trans hlast hhi, ?_⟩
    rw [List.flatMap_append]
    exact hpacket.append hlater hlast hhi

end Runs

/-! ## Frames -/

section Frames

variable {K : Type}

/-- The points of segments, in order. -/
def segmentPoints (segments : List (List (Item K) × Bool)) : List (MuchLidarData K) :=
  segments.flatMap fun segment => segment.1.flatMap Item.points

/-- A frame, and the segment kept for the next one, take their points from the segments in order,
none of them twice. -/
theorem framesOf_sublist (segments : List (List (Item K) × Bool)) :
    (Mealy.finalState closeFrame [] segments).Sublist (segmentPoints segments) ∧
      ∀ frame ∈ framesOf segments, frame.points.Sublist (segmentPoints segments) := by
  induction segments using List.reverseRecOn with
  | nil => exact ⟨List.Sublist.slnil, List.forall_mem_nil _⟩
  | append_singleton segments segment ih =>
    obtain ⟨hlast, hframes⟩ := ih
    have hsplit : segmentPoints (segments ++ [segment])
        = segmentPoints segments ++ segment.1.flatMap Item.points := by
      unfold segmentPoints
      rw [List.flatMap_append, List.flatMap_singleton]
    have hsub := (subFrame_initial segment.1).sublist
    have hnew := hsub.trans (List.sublist_append_right (segmentPoints segments) _)
    rw [hsplit, Mealy.finalState_concat, framesOf, Mealy.outputs_concat]
    refine ⟨?_, fun frame hframe => ?_⟩
    · unfold closeFrame
      dsimp only
      split_ifs
      · exact hnew
      · exact hlast.trans (List.sublist_append_left _ _)
    · rcases List.mem_append.mp hframe with hold | hthis
      · exact (hframes frame hold).trans (List.sublist_append_left _ _)
      · rw [List.mem_singleton.mp hthis]
        unfold closeFrame
        dsimp only
        split_ifs
        · exact hlast.append hsub
        · exact hnew

/-- Markers have no points. -/
theorem flatMap_points_filter (items : List (Item K)) :
    (items.filter fun item => item.separator.isNone).flatMap Item.points
      = items.flatMap Item.points := by
  induction items with
  | nil => rfl
  | cons item items ih =>
    rw [List.filter_cons]
    cases item with
    | marker stacked => exact ih
    | echo points => exact congrArg (points ++ ·) ih
    | dark => exact ih

/-- The points of the segments are those of the stream, in order. -/
theorem segmentPoints_split (items : List (Item K)) :
    segmentPoints (Segments.split Item.separator items).closed
        ++ (Segments.split Item.separator items).rest.flatMap Item.points
      = items.flatMap Item.points := by
  rw [← flatMap_points_filter items, ← Segments.flatten_split, List.flatMap_append,
    List.flatMap_assoc]
  rfl

/-- A closed segment has no more points than the stream. -/
theorem length_closed_le {items : List (Item K)} {segment : List (Item K) × Bool}
    (h : segment ∈ (Segments.split Item.separator items).closed) :
    (segment.1.flatMap Item.points).length ≤ (items.flatMap Item.points).length := by
  rw [← segmentPoints_split items]
  have hsub : (segment.1.flatMap Item.points).Sublist
      (segmentPoints (Segments.split Item.separator items).closed) :=
    List.sublist_flatten_of_mem (List.mem_map_of_mem h)
  exact (hsub.trans (List.sublist_append_left _ _)).length_le

/-- Nor has the open one. -/
theorem length_rest_le (items : List (Item K)) :
    ((Segments.split Item.separator items).rest.flatMap Item.points).length
      ≤ (items.flatMap Item.points).length := by
  rw [← segmentPoints_split items]
  exact (List.sublist_append_right _ _).length_le

/-- The points of a frame are points of the stream, in its order and none of them twice. -/
theorem frame_sublist {items : List (Item K)} {frame : Frame K}
    (h : frame ∈ framesOf (Segments.split Item.separator items).closed) :
    frame.points.Sublist (items.flatMap Item.points) := by
  rw [← segmentPoints_split]
  exact ((framesOf_sublist _).2 frame h).trans (List.sublist_append_left _ _)

/-- Without stacking, and with no segment over the limit, the frames are the segments. -/
theorem framesOf_conserve {segments : List (List (Item K) × Bool)}
    (h : ∀ segment ∈ segments, segment.2 = false ∧
      (segment.1.flatMap Item.points).length ≤ maxFramePoints) :
    (framesOf segments).flatMap (·.points) = segmentPoints segments := by
  induction segments using List.reverseRecOn with
  | nil => rfl
  | append_singleton segments segment ih =>
    obtain ⟨hplain, hroom⟩ := h segment (List.mem_append_right _ (List.mem_singleton_self segment))
    have hsub := subFrame_of_room hroom
    have hlast : segmentPoints (segments ++ [segment])
        = segmentPoints segments ++ segment.1.flatMap Item.points := by
      unfold segmentPoints
      rw [List.flatMap_append, List.flatMap_singleton]
    rw [framesOf, Mealy.outputs_concat, List.flatMap_append, ← framesOf,
      ih fun s hs => h s (List.mem_append_left _ hs), hlast, ← hsub]
    unfold closeFrame
    rw [List.flatMap_singleton, hplain]
    rfl

end Frames

/-! ## The results -/

section Results

variable {K : Type} [Field K] [LinearOrder K] [FloorRing K] [IsStrictOrderedRing K]

/-- **No point is lost.** As long as the lidar stacks no frames and no segment has more points than
a frame takes, the frames handed over and what is collected for the next one are, one after the
other, the points of the record stream. -/
theorem lidarRun_conserves (m : Platform K) (feedback : Feedback) (datagrams : List (List UInt8))
    {items : List (Item K)} (hitems : recordStream m datagrams = some items)
    (hplain : ∀ stacked ∈ items.filterMap Item.separator, stacked = false)
    (hroom : ∀ segment ∈ (Segments.split Item.separator items).closed,
      (segment.1.flatMap Item.points).length ≤ maxFramePoints)
    (hopen : ((Segments.split Item.separator items).rest.flatMap Item.points).length
      ≤ maxFramePoints) :
    ∃ t, lidarRun m (.initial feedback) datagrams = some t ∧
      t.assembly.frames.flatMap (·.points) ++ t.assembly.LidarPerFrameDatePrt_Get
        = items.flatMap Item.points := by
  obtain ⟨t, items', ht, hitems', hassembled⟩ := lidarRun_assembled m feedback datagrams
  rw [hitems, Option.some.injEq] at hitems'
  subst hitems'
  refine ⟨t, ht, ?_⟩
  have hclosed : ∀ segment ∈ (Segments.split Item.separator items).closed,
      segment.2 = false ∧ (segment.1.flatMap Item.points).length ≤ maxFramePoints := by
    intro segment hsegment
    refine ⟨hplain _ ?_, hroom segment hsegment⟩
    rw [← Segments.map_closed]
    exact List.mem_map_of_mem hsegment
  rw [hassembled.frames, hassembled.current, framesOf_conserve hclosed, ← segmentPoints_split,
    subFrame_of_room hopen]

/-- **Frames are in order of time.** If the times of the data packets never go back, neither do the
times of the points in any frame that is handed over. -/
theorem lidarRun_timed (m : Platform K) (feedback : Feedback) (datagrams : List (List UInt8))
    (hsorted : (dataTimes (datagrams.filterMap collectionDataArrive)).Pairwise (· ≤ ·)) :
    ∃ t, lidarRun m (.initial feedback) datagrams = some t ∧
      ∀ frame ∈ t.assembly.frames,
        (frame.points.map (·.Mtimestamp_nsce)).Pairwise (· ≤ ·) := by
  obtain ⟨t, items, ht, hitems, hassembled⟩ := lidarRun_assembled m feedback datagrams
  refine ⟨t, ht, fun frame hframe => ?_⟩
  obtain ⟨hi, -, htimed⟩ := timedWithin_readPackets m (fun t _ => UInt64.zero_le) hsorted hitems
  rw [hassembled.frames] at hframe
  exact htimed.sorted.sublist ((frame_sublist hframe).map _)

end Results

/-! ## The two packets with markers -/

section Samples

theorem flatMap_points_sampleItems {K : Type} (a b c d e f : MuchLidarData K) :
    (sampleItems a b c ++ sampleItems d e f).flatMap Item.points = [a, b, c, d, e, f] := by
  unfold sampleItems
  simp only [List.flatMap_append, flatMap_points_darkItems]
  rfl

theorem lidarRun_conserves_sampleDatagrams :
    ∃ t items, lidarRun exactMath (.initial ⟨false, "", ""⟩) sampleDatagrams = some t ∧
      recordStream exactMath sampleDatagrams = some items ∧
      t.assembly.frames.flatMap (·.points) ++ t.assembly.LidarPerFrameDatePrt_Get
        = items.flatMap Item.points ∧
      items.filterMap Item.separator = [false, false] ∧
      (items.flatMap Item.points).length = 6 := by
  obtain ⟨p, q, hitems, -⟩ := recordStream_sampleDatagrams
  generalize p ⟨0, _⟩ = a, p ⟨1, _⟩ = b, p ⟨3, _⟩ = c, q ⟨0, _⟩ = d, q ⟨1, _⟩ = e, q ⟨3, _⟩ = f
    at hitems
  have hpoints := flatMap_points_sampleItems a b c d e f
  have hmarkers : (sampleItems a b c ++ sampleItems d e f).filterMap Item.separator
      = [false, false] := by
    rw [← Segments.map_closed, split_sampleItems]
    rfl
  have hroom : ((sampleItems a b c ++ sampleItems d e f).flatMap Item.points).length
      ≤ maxFramePoints := by
    simp [hpoints, maxFramePoints]
  have hplain : ∀ stacked ∈ (sampleItems a b c ++ sampleItems d e f).filterMap Item.separator,
      stacked = false := by
    rw [hmarkers]
    decide
  obtain ⟨t, ht, hconserved⟩ := lidarRun_conserves exactMath ⟨false, "", ""⟩ sampleDatagrams
    hitems hplain (fun segment hsegment => (length_closed_le hsegment).trans hroom)
    ((length_rest_le _).trans hroom)
  exact ⟨t, _, ht, hitems, hconserved, hmarkers, congrArg List.length hpoints⟩

/-- The point of record `k` of a packet is at the part `(k + 1) / 149` of the second before it. -/
theorem pointTime_second {start stop : UInt64} (time : UInt64) (n : ℕ) (hle : start ≤ stop)
    (hsecond : stop.toNat = start.toNat + 1000000000) {k : ℕ} (hk : k < 149)
    (htime : time.toNat = start.toNat + n) (hlo : 149 * n ≤ 1000000000 * (k + 1))
    (hhi : 1000000000 * (k + 1) < 149 * (n + 1)) :
    pointTime exactMath stop start EchoFormat.single.records k = time := by
  have hfloor : ⌊exactTime (K := ℝ) stop start 149 k⌋ = ((start.toNat + n : ℕ) : ℤ) := by
    have hlo' : (149 * n : ℝ) ≤ 1000000000 * (k + 1) := by exact_mod_cast hlo
    have hhi' : (1000000000 * (k + 1) : ℝ) < 149 * (n + 1) := by exact_mod_cast hhi
    rw [Int.floor_eq_iff]
    unfold exactTime pointInterval
    rw [UInt64.toNat_sub_of_le _ _ hle, hsecond, Nat.add_sub_cancel_left,
      show 149 - 1 - k = 148 - k by omega, Nat.cast_sub (by omega)]
    push_cast
    constructor <;> linarith
  have hbounds := exactTime_bounds (K := ℝ) hle (show 0 < 149 by decide) k
  apply UInt64.toNat_inj.mp
  calc (exactMath.toU64 (exactTime stop start 149 k)).toNat
      = ⌊exactTime (K := ℝ) stop start 149 k⌋.toNat :=
        (toU64_bounds exactMath hbounds.1 hbounds.2).1
    _ = start.toNat + n := by rw [hfloor, Int.toNat_natCast]
    _ = time.toNat := htime.symm

theorem lidarRun_timed_sampleDatagrams :
    ∃ t, lidarRun exactMath (.initial ⟨false, "", ""⟩) sampleDatagrams = some t ∧
      (∀ frame ∈ t.assembly.frames,
        (frame.points.map (·.Mtimestamp_nsce)).Pairwise (· ≤ ·)) ∧
      t.assembly.frames.map (fun frame => frame.points.map (·.Mtimestamp_nsce)) =
        [[6711409, 13422818], [26845637, 1006711409, 1013422818]] := by
  have hsorted : (dataTimes (sampleDatagrams.filterMap collectionDataArrive)).Pairwise (· ≤ ·) := by
    rw [collect_sampleDatagrams]
    decide
  obtain ⟨t, ht, htimed⟩ := lidarRun_timed exactMath ⟨false, "", ""⟩ sampleDatagrams hsorted
  obtain ⟨t', items, ht', hitems, hassembled⟩ :=
    lidarRun_assembled exactMath ⟨false, "", ""⟩ sampleDatagrams
  obtain ⟨p, q, hstream, hp, hq⟩ := recordStream_sampleDatagrams
  rw [ht, Option.some.injEq] at ht'
  rw [hstream, Option.some.injEq] at hitems
  refine ⟨t, ht, htimed, ?_⟩
  rw [ht', hassembled.frames, ← hitems, framesOf_sampleItems]
  simp only [List.map_cons, List.map_nil, hp, hq]
  rw [pointTime_second 6711409 6711409 (by decide) rfl (by decide) rfl (by decide) (by decide),
    pointTime_second 13422818 13422818 (by decide) rfl (by decide) rfl (by decide) (by decide),
    pointTime_second 26845637 26845637 (by decide) rfl (by decide) rfl (by decide) (by decide),
    pointTime_second 1006711409 6711409 (by decide) rfl (by decide) rfl (by decide) (by decide),
    pointTime_second 1013422818 13422818 (by decide) rfl (by decide) rfl (by decide) (by decide)]

end Samples
end GetLidarData
end ShipMotion
