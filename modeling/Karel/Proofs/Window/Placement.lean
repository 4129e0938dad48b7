import Karel.Proofs.Window.Reachable

/-!
# Placing a window anew

A window that frames Karel stands where the rule for a new place would put it. So the steps that
slide a window by one cell and the rule that computes its place from Karel's position never disagree,
although they look at different things.
-/

namespace Karel.Window

variable {window : Window}

/-- The start of a framed axis is the one that is computed anew. -/
theorem axisStart_eq_start {position start size lookahead : Coordinate} {bound : Option Coordinate}
    (framed : (Axis.ofWords position start bound size lookahead).Framed) :
    axisStart position start bound size lookahead = start := by
  rw [← Int32.toInt_inj, toInt_axisStart framed.toSound, framed.settled_eq]
  rfl

theorem Framed.recenter_eq (framed : window.Framed) : window.recenter = window := by
  have columns := axisStart_eq_start framed.horizontal
  have rows := axisStart_eq_start framed.vertical
  simp only [recenter, columns, rows]

theorem Framed.resize_eq (framed : window.Framed) :
    window.resize window.width window.height = window := by
  have width : max window.width 1 = window.width :=
    Coordinate.max_eq_left framed.horizontal.size_pos
  have height : max window.height 1 = window.height :=
    Coordinate.max_eq_left framed.vertical.size_pos
  unfold resize
  rw [width, height]
  exact framed.recenter_eq

theorem Framed.setLookahead_eq (framed : window.Framed) :
    window.setLookahead window.margin = window := by
  have margin : max window.margin 0 = window.margin :=
    Coordinate.max_eq_left framed.sound.margin_nonneg
  unfold setLookahead
  rw [margin]
  exact framed.recenter_eq

/-- Whatever was done with a window, to place it anew changes nothing, and neither does setting its
size or its margin to what they are. -/
theorem Reachable.placement_eq (reachable : window.Reachable) :
    window.recenter = window ∧ window.resize window.width window.height = window ∧
      window.setLookahead window.margin = window := by
  have framed := reachable.framed
  exact ⟨framed.recenter_eq, framed.resize_eq, framed.setLookahead_eq⟩

/-- The place is still the right one after Karel's second step, the one that slides the window. -/
theorem Reachable.placement_eq_corner :
    ((cornerWindow.after .move).after .move).recenter = (cornerWindow.after .move).after .move ∧
      ((cornerWindow.after .move).after .move).resize 3 3 = (cornerWindow.after .move).after .move ∧
      ((cornerWindow.after .move).after .move).setLookahead 1 =
        (cornerWindow.after .move).after .move :=
  ((reachable_cornerWindow.after .move).after .move).placement_eq

end Karel.Window
