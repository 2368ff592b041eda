import Mathlib.Data.List.Rotate
import SmartSurf.Support.FirstMatch
import SmartSurf.Wifi.Commands

/-!
# The order of the comparisons

The function compares the command with one keyword after the other.  Of all
pairs of keywords only those of `p2p_set_sleep`, with and without a space, can
match the same command.  So the comparisons may be written in any order in which
the longer of these two comes first.
-/

namespace SmartSurf.Wifi

open Support C

/-- The keyword without regard to case. -/
def Row.folded (row : Row) : CText :=
  (lit row.keyword).map toLower

theorem Row.folded_of_selects
    {row : Row} {cfg : Config} {cmd : CText} (h : row.selects cfg cmd = true) :
    row.folded <+: cmd.map toLower :=
  Test.prefix_of_holds (Bool.and_eq_true_iff.mp h).2

/-- A keyword continues another only if it is that of `p2p_set_sleep`. -/
theorem dispatch_folded :
    ∀ r ∈ dispatch, ∀ r' ∈ dispatch, r.folded <+: r'.folded →
      r.branch = r'.branch ∨
        r.branch = .p2pSetSleepDefault ∧ r'.branch = .p2pSetSleep := by
  decide +kernel

theorem nodup_dispatch : (dispatch.map Row.branch).Nodup := by
  decide +kernel

/-- Two branches that can be meant by the same command. -/
theorem branches_of_selects
    {cfg : Config} {cmd : CText} {r r' : Row} (hr : r ∈ dispatch)
    (hr' : r' ∈ dispatch) (h : r.selects cfg cmd = true)
    (h' : r'.selects cfg cmd = true) :
    r.branch = r'.branch ∨
      r.branch = .p2pSetSleepDefault ∧ r'.branch = .p2pSetSleep ∨
      r.branch = .p2pSetSleep ∧ r'.branch = .p2pSetSleepDefault := by
  rcases List.prefix_or_prefix_of_prefix (Row.folded_of_selects h)
    (Row.folded_of_selects h') with hfolded | hfolded
  · rcases dispatch_folded r hr r' hr' hfolded with heq | hpair
    · exact .inl heq
    · exact .inr (.inl hpair)
  · rcases dispatch_folded r' hr' r hr hfolded with heq | ⟨hr'', hr⟩
    · exact .inl heq.symm
    · exact .inr (.inr ⟨hr, hr''⟩)

/-- The comparisons can be written in another order exactly if that order has
`p2p_set_sleep` with a space before `p2p_set_sleep` without one. -/
theorem dispatch_order_iff {rows : List Row} (hperm : rows.Perm dispatch) :
    (∀ cfg cmd,
      (rows.find? fun row => row.selects cfg cmd).map Row.branch =
        selectBranch cfg cmd) ↔
      position Row.branch rows .p2pSetSleep <
        position Row.branch rows .p2pSetSleepDefault := by
  have hnodup : (rows.map Row.branch).Nodup :=
    (hperm.map Row.branch).nodup_iff.mpr nodup_dispatch
  constructor
  · intro hsame
    have hselect : selectBranch { mtkP2pSigma := true } (lit "p2p_set_sleep ") =
        some .p2pSetSleep := by
      decide +kernel
    obtain ⟨r, hfind, hbranch⟩ := Option.map_eq_some_iff.mp
      ((hsame _ _).trans hselect)
    obtain ⟨r', hr', hbranch', hselects⟩ : ∃ r' ∈ dispatch,
        r'.branch = .p2pSetSleepDefault ∧
          r'.selects { mtkP2pSigma := true } (lit "p2p_set_sleep ") = true := by
      decide +kernel
    have hle := position_le_of_find hnodup hfind (hperm.mem_iff.mpr hr') hselects
    rw [hbranch, hbranch'] at hle
    refine lt_of_le_of_ne hle fun heq => ?_
    rw [← hbranch] at heq
    have hkey := key_eq_of_position_eq (List.mem_of_find?_eq_some hfind) heq
    rw [hbranch] at hkey
    cases hkey
  · intro horder cfg cmd
    refine find_map_eq_of_order hperm hnodup ?_
    intro r hr r' hr' h h' hle
    rcases branches_of_selects (hperm.mem_iff.mp hr) (hperm.mem_iff.mp hr') h h'
      with heq | ⟨hbranch, hbranch'⟩ | ⟨hbranch, hbranch'⟩
    · rw [heq]
    · rw [hbranch, hbranch'] at hle
      omega
    · rw [hbranch, hbranch']
      decide +kernel

/-- The comparisons can be started anywhere in front of the pair, but not be
reversed. -/
theorem dispatch_order_of_rotate :
    (∀ cfg cmd,
      ((dispatch.rotate 5).find? fun row => row.selects cfg cmd).map
          Row.branch = selectBranch cfg cmd) ∧
      ¬∀ cfg cmd,
        (dispatch.reverse.find? fun row => row.selects cfg cmd).map
            Row.branch = selectBranch cfg cmd := by
  rw [dispatch_order_iff (List.rotate_perm dispatch 5),
    dispatch_order_iff (List.reverse_perm dispatch)]
  decide +kernel

end SmartSurf.Wifi
