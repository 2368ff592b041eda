import SmartSurf.Platform.Printf
import SmartSurf.Support.Overwrites

/-!
# The power module

`power.c` keeps no state of its own.  A low-power hint writes two nodes of the
kernel, one after the other, and either write may fail without the module
taking notice.  The main result says which mode each of the two nodes is in
after any sequence of calls.
-/

namespace SmartSurf.Power

open SmartSurf.Support

/-- The text that each node of the kernel has taken last. -/
abbrev Nodes := CText → Option CText

/-- What `open` and `write` return.  A node takes the text of a write as a whole
or refuses it. -/
structure Access where
  fd : ℤ
  len : ℤ
  deriving DecidableEq, Repr

/-- `power_fwrite`. -/
def powerFwrite (path s : CText) (access : Access) (nodes : Nodes) : Nodes :=
  if access.fd < 0 then nodes
  else if access.len < 0 then nodes
  else Function.update nodes path (some s)

/-- The text that a write hands over, if none of the calls fails. -/
def Access.taken (access : Access) (s : CText) : Option CText :=
  if access.fd < 0 ∨ access.len < 0 then none else some s

theorem powerFwrite_eq_put
    (path s : CText) (access : Access) (nodes : Nodes) :
    powerFwrite path s access nodes = put nodes path (access.taken s) := by
  rw [powerFwrite, Access.taken]
  by_cases hfd : access.fd < 0
  · rw [if_pos hfd, if_pos (Or.inl hfd)]
    rfl
  · by_cases hlen : access.len < 0
    · rw [if_neg hfd, if_pos hlen, if_pos (Or.inr hlen)]
      rfl
    · rw [if_neg hfd, if_neg hlen, if_neg (not_or.mpr ⟨hfd, hlen⟩)]
      rfl

/-! ## Hints and features -/

/-- The values of `power_hint_t` that `power_hint` names. -/
inductive Hint where
  | lowPower
  | vsync
  | interaction
  | cpuBoost
  | launchBoost
  | audio
  | setProfile
  | videoEncode
  | videoDecode
  | other (hint : ℕ)
  deriving DecidableEq, Repr

inductive Feature where
  | doubleTapToWake
  | other (feature : ℕ)
  deriving DecidableEq, Repr

def mtFpsUpperBoundPath : CText :=
  C.lit "/d/ged/hal/fps_upper_bound"

def mtRushBoostPath : CText :=
  C.lit "/proc/hps/rush_boost_enabled"

/-- `power_hint`; `none` if the null pointer is read.  The accesses are those
of the first and of the second node. -/
def powerHint (hint : Hint) (data : Option ℤ) (fps boost : Access)
    (nodes : Nodes) : Option Nodes :=
  match hint with
  | .lowPower =>
      data.map fun dataint =>
        if dataint ≠ 0 then
          powerFwrite mtRushBoostPath (C.lit "0") boost
            (powerFwrite mtFpsUpperBoundPath (C.lit "30") fps nodes)
        else
          powerFwrite mtRushBoostPath (C.lit "1") boost
            (powerFwrite mtFpsUpperBoundPath (C.lit "60") fps nodes)
  | _ => some nodes

/-- `set_feature`, in a build with or without `TAP_TO_WAKE_NODE`. -/
def setFeature (tapToWakeNode : Option CText) (feature : Feature) (state : ℤ)
    (access : Access) (nodes : Nodes) : Nodes :=
  match tapToWakeNode, feature with
  | some path, .doubleTapToWake =>
      powerFwrite path ((C.signedDecimal state).take 63) access nodes
  | _, _ => nodes

/-- The entry points of `HAL_MODULE_INFO_SYM`. -/
inductive Call where
  | init
  | setInteractive (on : ℤ)
  | powerHint (hint : Hint) (data : Option ℤ) (fps boost : Access)
  | setFeature (feature : Feature) (state : ℤ) (access : Access)
  deriving DecidableEq, Repr

/-- The function behind an entry point. -/
def Call.perform (tapToWakeNode : Option CText) :
    Call → Nodes → Option Nodes
  | .init, nodes => some nodes
  | .setInteractive _, nodes => some nodes
  | .powerHint hint data fps boost, nodes =>
      Power.powerHint hint data fps boost nodes
  | .setFeature feature state access, nodes =>
      some (Power.setFeature tapToWakeNode feature state access nodes)

/-- A sequence of calls. -/
def performAll (tapToWakeNode : Option CText) (calls : List Call)
    (nodes : Nodes) : Option Nodes :=
  calls.foldlM (fun nodes call => call.perform tapToWakeNode nodes) nodes

/-! ## The mode of the nodes -/

/-- The nodes that belong to the low-power mode. -/
inductive ModeNode where
  | fpsUpperBound
  | rushBoost
  deriving DecidableEq, Repr

def ModeNode.path : ModeNode → CText
  | .fpsUpperBound => mtFpsUpperBoundPath
  | .rushBoost => mtRushBoostPath

/-- What a node is told when the low-power mode is entered or left. -/
def ModeNode.text : ModeNode → Bool → CText
  | .fpsUpperBound, true => C.lit "30"
  | .fpsUpperBound, false => C.lit "60"
  | .rushBoost, true => C.lit "0"
  | .rushBoost, false => C.lit "1"

/-- Which access of a hint is that of a node. -/
def ModeNode.access : ModeNode → Access → Access → Access
  | .fpsUpperBound, fps, _ => fps
  | .rushBoost, _, boost => boost

/-- The text that a call makes a node of the low-power mode take. -/
def Call.takenBy : ModeNode → Call → Option CText
  | node, .powerHint .lowPower (some dataint) fps boost =>
      (node.access fps boost).taken (node.text (dataint ≠ 0))
  | _, _ => none

/-- A low-power hint comes with the pointer it is read through. -/
def Call.hasData : Call → Bool
  | .powerHint .lowPower data _ _ => data.isSome
  | _ => true

variable {tapToWakeNode : Option CText}

theorem path_ne : mtRushBoostPath ≠ mtFpsUpperBoundPath := by
  decide +kernel

theorem lowPower_apply
    (low : Bool) (fps boost : Access) (nodes : Nodes) (node : ModeNode) :
    powerFwrite mtRushBoostPath (ModeNode.rushBoost.text low) boost
        (powerFwrite mtFpsUpperBoundPath (ModeNode.fpsUpperBound.text low) fps
          nodes) node.path =
      ((node.access fps boost).taken (node.text low)).or
        (nodes node.path) := by
  rw [powerFwrite_eq_put, powerFwrite_eq_put, put_apply, put_apply]
  cases node with
  | fpsUpperBound =>
      rw [ModeNode.path, if_neg path_ne, if_pos rfl, Option.none_or,
        ModeNode.access]
  | rushBoost =>
      rw [ModeNode.path, if_pos rfl, if_neg path_ne.symm, Option.none_or,
        ModeNode.access]

theorem powerHint_lowPower
    (dataint : ℤ) (fps boost : Access) (nodes : Nodes) :
    powerHint .lowPower (some dataint) fps boost nodes =
      some (powerFwrite mtRushBoostPath
        (ModeNode.rushBoost.text (dataint ≠ 0)) boost
        (powerFwrite mtFpsUpperBoundPath
          (ModeNode.fpsUpperBound.text (dataint ≠ 0)) fps nodes)) := by
  rw [powerHint, Option.map_some]
  by_cases hlow : dataint ≠ 0
  · rw [if_pos hlow, decide_eq_true hlow]
    rfl
  · rw [if_neg hlow, decide_eq_false hlow]
    rfl

theorem setFeature_apply
    {path : CText} (htap : tapToWakeNode ≠ some path) (feature : Feature)
    (state : ℤ) (access : Access) (nodes : Nodes) :
    setFeature tapToWakeNode feature state access nodes path =
      nodes path := by
  cases tapToWakeNode with
  | none => rfl
  | some tap =>
      have hpath : tap ≠ path := fun heq => htap (congrArg some heq)
      cases feature with
      | doubleTapToWake =>
          rw [setFeature, powerFwrite_eq_put, put_apply, if_neg hpath,
            Option.none_or]
      | other feature => rfl

/-- What one call does to the nodes of the low-power mode. -/
theorem perform_apply
    (htap : ∀ node : ModeNode, tapToWakeNode ≠ some node.path)
    {call : Call} (hdata : call.hasData) (nodes : Nodes) :
    ∃ nodes', call.perform tapToWakeNode nodes = some nodes' ∧
      ∀ node : ModeNode,
        nodes' node.path = (call.takenBy node).or (nodes node.path) := by
  have hnothing : ∀ node : ModeNode,
      nodes node.path = (none : Option CText).or (nodes node.path) :=
    fun node => Option.none_or.symm
  cases call with
  | init => exact ⟨nodes, rfl, hnothing⟩
  | setInteractive on => exact ⟨nodes, rfl, hnothing⟩
  | powerHint hint data fps boost =>
      cases hint with
      | lowPower =>
          obtain ⟨dataint, rfl⟩ := Option.isSome_iff_exists.mp hdata
          refine ⟨_, powerHint_lowPower dataint fps boost nodes, fun node => ?_⟩
          exact lowPower_apply (decide (dataint ≠ 0)) fps boost nodes node
      | _ => exact ⟨nodes, rfl, hnothing⟩
  | setFeature feature state access =>
      refine ⟨_, rfl, fun node => ?_⟩
      exact setFeature_apply (htap node) feature state access nodes

/-- After any sequence of calls a node of the low-power mode holds the text of
the last hint that reached it, whatever happened to the other node. -/
theorem low_power_run
    (htap : ∀ node : ModeNode, tapToWakeNode ≠ some node.path)
    {calls : List Call} (hdata : ∀ call ∈ calls, call.hasData)
    (nodes : Nodes) :
    ∃ nodes', performAll tapToWakeNode calls nodes = some nodes' ∧
      ∀ node : ModeNode,
        nodes' node.path =
          ((calls.filterMap (Call.takenBy node)).getLast?).or
            (nodes node.path) := by
  induction calls generalizing nodes with
  | nil => exact ⟨nodes, rfl, fun node => rfl⟩
  | cons call calls ih =>
      rw [List.forall_mem_cons] at hdata
      obtain ⟨nodes₁, hperform, hfirst⟩ := perform_apply htap hdata.1 nodes
      obtain ⟨nodes₂, hrest, hlast⟩ := ih hdata.2 nodes₁
      refine ⟨nodes₂, ?_, fun node => ?_⟩
      · rw [performAll, List.foldlM_cons, hperform]
        exact hrest
      · rw [hlast, hfirst, ← Option.or_assoc]
        cases htaken : call.takenBy node with
        | none => rw [List.filterMap_cons_none htaken, Option.or_none]
        | some text =>
            rw [List.filterMap_cons_some htaken, List.getLast?_cons,
              Option.or_some]

/-- With the node of `BoardConfig.mk`.  The second hint reaches only the first
node, so that the limit of the frames is lifted while the boost stays off. -/
theorem low_power_run_of_refused :
    ∃ nodes',
      performAll (some (C.lit "/sys/devices/mx_tsp/gesture_control"))
          [.powerHint .lowPower (some 1) ⟨3, 2⟩ ⟨4, 1⟩, .setInteractive 1,
            .setFeature .doubleTapToWake 1 ⟨5, 1⟩,
            .powerHint .lowPower (some 0) ⟨3, 2⟩ ⟨4, -16⟩]
          (fun _ => none) = some nodes' ∧
        nodes' mtFpsUpperBoundPath = some (C.lit "60") ∧
        nodes' mtRushBoostPath = some (C.lit "0") := by
  have htap : ∀ node : ModeNode,
      some (C.lit "/sys/devices/mx_tsp/gesture_control") ≠ some node.path := by
    intro node
    cases node <;> decide +kernel
  have hdata : ∀ call ∈ [Call.powerHint .lowPower (some 1) ⟨3, 2⟩ ⟨4, 1⟩,
      .setInteractive 1, .setFeature .doubleTapToWake 1 ⟨5, 1⟩,
      .powerHint .lowPower (some 0) ⟨3, 2⟩ ⟨4, -16⟩], call.hasData := by
    decide
  obtain ⟨nodes', hrun, hnodes⟩ := low_power_run htap hdata fun _ => none
  exact ⟨nodes', hrun, hnodes .fpsUpperBound, hnodes .rushBoost⟩

end SmartSurf.Power
