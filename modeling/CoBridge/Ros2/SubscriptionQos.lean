import Mathlib.Algebra.BigOperators.Group.List.Basic
import Mathlib.Algebra.Group.Nat.Defs
import Mathlib.Data.UInt

/-!
# The quality of service of a subscription

Before `subscribe` creates a subscription it looks at what the publishers of the topic
offer. It counts those that are reliable and those that keep their last messages for late
joiners, adds up how many messages they keep, and asks for the strongest profile that
still connects to all of them.
-/

namespace CoBridge.Ros2

inductive ReliabilityPolicy where
  | systemDefault
  | reliable
  | bestEffort
  | unknown
  | bestAvailable
deriving DecidableEq

inductive DurabilityPolicy where
  | systemDefault
  | transientLocal
  | volatile
  | unknown
  | bestAvailable
deriving DecidableEq

/-- The part of a profile that is compared or chosen. -/
structure QosProfile where
  depth : UInt64
  reliability : ReliabilityPolicy
  durability : DurabilityPolicy
deriving DecidableEq

/-- The accumulators of the loop over the publishers. The counts are at most the number of
publishers, so only the depth can overflow. -/
structure QosCounts where
  depth : UInt64
  reliabilityReliableEndpointsCount : Nat
  durabilityTransientLocalEndpointsCount : Nat

/-- The history depth a publisher counts for. -/
def publisherHistoryDepth (qos : QosProfile) : UInt64 := max 1 qos.depth

/-- One turn of the loop over the publishers. -/
def QosCounts.add (counts : QosCounts) (qos : QosProfile) : QosCounts where
  reliabilityReliableEndpointsCount := if qos.reliability = .reliable
    then counts.reliabilityReliableEndpointsCount + 1
    else counts.reliabilityReliableEndpointsCount
  durabilityTransientLocalEndpointsCount := if qos.durability = .transientLocal
    then counts.durabilityTransientLocalEndpointsCount + 1
    else counts.durabilityTransientLocalEndpointsCount
  depth := counts.depth + publisherHistoryDepth qos

def qosCounts (publisherInfo : List QosProfile) : QosCounts :=
  publisherInfo.foldl QosCounts.add ⟨0, 0, 0⟩

/-- The upper limit is applied last, and so prevails over the lower one. -/
def limitDepth (minQosDepth maxQosDepth depth : UInt64) : UInt64 :=
  if max depth minQosDepth > maxQosDepth then maxQosDepth else max depth minQosDepth

/-- The profile that `subscribe` asks for. -/
def subscriptionQos (minQosDepth maxQosDepth : UInt64) (publisherInfo : List QosProfile) :
    QosProfile where
  depth := limitDepth minQosDepth maxQosDepth (qosCounts publisherInfo).depth
  reliability :=
    if (qosCounts publisherInfo).reliabilityReliableEndpointsCount = publisherInfo.length
    then .reliable else .bestEffort
  durability :=
    if (qosCounts publisherInfo).durabilityTransientLocalEndpointsCount = publisherInfo.length
    then .transientLocal else .volatile

variable (minQosDepth maxQosDepth : UInt64) (publisherInfo : List QosProfile)

/-- What the accumulators hold after the loop. -/
theorem foldl_add (counts : QosCounts) :
    (publisherInfo.foldl QosCounts.add counts).reliabilityReliableEndpointsCount =
        counts.reliabilityReliableEndpointsCount +
          publisherInfo.countP (fun qos => qos.reliability = .reliable) ∧
      (publisherInfo.foldl QosCounts.add counts).durabilityTransientLocalEndpointsCount =
        counts.durabilityTransientLocalEndpointsCount +
          publisherInfo.countP (fun qos => qos.durability = .transientLocal) ∧
      (publisherInfo.foldl QosCounts.add counts).depth =
        counts.depth + (publisherInfo.map publisherHistoryDepth).sum := by
  induction publisherInfo generalizing counts with
  | nil => simp
  | cons qos rest ih =>
    obtain ⟨reliable, transientLocal, depth⟩ := ih (counts.add qos)
    rw [List.foldl_cons, reliable, transientLocal, depth]
    refine ⟨?_, ?_, ?_⟩
    · by_cases offered : qos.reliability = .reliable
      · simp only [QosCounts.add, offered, if_true, List.countP_cons, decide_true]
        omega
      · simp [QosCounts.add, offered]
    · by_cases offered : qos.durability = .transientLocal
      · simp only [QosCounts.add, offered, if_true, List.countP_cons, decide_true]
        omega
      · simp [QosCounts.add, offered]
    · simp only [QosCounts.add, List.map_cons, List.sum_cons]
      grind

theorem reliability_eq_reliable_iff :
    (subscriptionQos minQosDepth maxQosDepth publisherInfo).reliability = .reliable ↔
      ∀ qos ∈ publisherInfo, qos.reliability = .reliable := by
  have counted := (foldl_add publisherInfo ⟨0, 0, 0⟩).1
  rw [Nat.zero_add] at counted
  simp only [subscriptionQos, qosCounts, counted]
  simp

theorem durability_eq_transientLocal_iff :
    (subscriptionQos minQosDepth maxQosDepth publisherInfo).durability = .transientLocal ↔
      ∀ qos ∈ publisherInfo, qos.durability = .transientLocal := by
  have counted := (foldl_add publisherInfo ⟨0, 0, 0⟩).2.1
  rw [Nat.zero_add] at counted
  simp only [subscriptionQos, qosCounts, counted]
  simp

theorem toNat_max (first second : UInt64) :
    (max first second).toNat = max first.toNat second.toNat := by
  change (if first ≤ second then second else first).toNat = _
  split
  · next smaller =>
    rw [UInt64.le_iff_toNat_le] at smaller
    omega
  · next larger =>
    rw [UInt64.le_iff_toNat_le] at larger
    omega

/-- The depth is limited from both sides, and the upper limit prevails. -/
theorem limitDepth_toNat (depth : UInt64) :
    (limitDepth minQosDepth maxQosDepth depth).toNat =
      min maxQosDepth.toNat (max minQosDepth.toNat depth.toNat) := by
  unfold limitDepth
  split
  · next above =>
    rw [gt_iff_lt, UInt64.lt_iff_toNat_lt, toNat_max] at above
    omega
  · next within =>
    rw [gt_iff_lt, UInt64.lt_iff_toNat_lt, toNat_max] at within
    rw [toNat_max]
    omega

/-- The history depths of the publishers together, in exact arithmetic. -/
def totalDepth (publisherInfo : List QosProfile) : Nat :=
  (publisherInfo.map fun qos => max 1 qos.depth.toNat).sum

theorem sum_publisherHistoryDepth :
    (publisherInfo.map publisherHistoryDepth).sum.toNat = totalDepth publisherInfo % 2 ^ 64 := by
  unfold totalDepth
  induction publisherInfo with
  | nil => rfl
  | cons qos rest ih =>
    have first : (publisherHistoryDepth qos).toNat = max 1 qos.depth.toNat := toNat_max 1 qos.depth
    rw [List.map_cons, List.sum_cons, UInt64.toNat_add, ih, first,
      Nat.add_mod_mod, List.map_cons, List.sum_cons]

/-- The depth of the profile, whatever the publishers keep: the sum of the loop wraps round. -/
theorem subscriptionQos_depth :
    (subscriptionQos minQosDepth maxQosDepth publisherInfo).depth.toNat =
      min maxQosDepth.toNat (max minQosDepth.toNat (totalDepth publisherInfo % 2 ^ 64)) := by
  have counted := (foldl_add publisherInfo ⟨0, 0, 0⟩).2.2
  simp only [subscriptionQos, qosCounts, counted]
  rw [UInt64.zero_add, limitDepth_toNat, sum_publisherHistoryDepth]

/-- The profile of a subscription asks for reliability and for durability exactly if all
publishers offer them. Its depth is within the limits, and is the limited sum of the depths
unless that overflows. -/
theorem subscription_qos_strongest (minQosDepth maxQosDepth : UInt64)
    (publisherInfo : List QosProfile) :
    ((subscriptionQos minQosDepth maxQosDepth publisherInfo).reliability = .reliable ↔
        ∀ qos ∈ publisherInfo, qos.reliability = .reliable) ∧
      ((subscriptionQos minQosDepth maxQosDepth publisherInfo).durability = .transientLocal ↔
        ∀ qos ∈ publisherInfo, qos.durability = .transientLocal) ∧
      (subscriptionQos minQosDepth maxQosDepth publisherInfo).depth.toNat ≤ maxQosDepth.toNat ∧
      min minQosDepth.toNat maxQosDepth.toNat ≤
        (subscriptionQos minQosDepth maxQosDepth publisherInfo).depth.toNat ∧
      (totalDepth publisherInfo < 2 ^ 64 →
        (subscriptionQos minQosDepth maxQosDepth publisherInfo).depth.toNat =
          min maxQosDepth.toNat (max minQosDepth.toNat (totalDepth publisherInfo))) := by
  have depth := subscriptionQos_depth minQosDepth maxQosDepth publisherInfo
  refine ⟨reliability_eq_reliable_iff minQosDepth maxQosDepth publisherInfo,
    durability_eq_transientLocal_iff minQosDepth maxQosDepth publisherInfo, ?_, ?_, ?_⟩
  · rw [depth]
    exact Nat.min_le_left _ _
  · omega
  · intro fits
    rw [depth, Nat.mod_eq_of_lt fits]

/-- Two publishers that keep messages, one of which is not reliable. -/
theorem subscription_qos_two_publishers :
    (subscriptionQos 1 25 [⟨10, .reliable, .transientLocal⟩,
      ⟨0, .bestEffort, .transientLocal⟩]).depth.toNat = 11 := by
  obtain ⟨_, _, _, _, limited⟩ := subscription_qos_strongest 1 25
    [⟨10, .reliable, .transientLocal⟩, ⟨0, .bestEffort, .transientLocal⟩]
  rw [limited (by decide)]
  decide

end CoBridge.Ros2
