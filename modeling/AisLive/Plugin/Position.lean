/-
Where the dialog searches.

The search position is written by the fixes of the boat, by the cursor and by turning
follow mode on.  `Course` is what decides which of them it follows, and `CourseMove` lists
what an event makes of it.

A position chosen by hand is `held` from then on: it is what the cursor was at, or what was
searched when follow mode was turned off, until follow mode is on again.  The first fix a
dialog receives does not ask for the mode, and `selection_held_iff` says that nothing else
moves a held position.
-/
import AisLive.Plugin.Plugin

namespace AisLive

open Double Transition

/-- What decides where the dialog searches. -/
structure Course (D : Type) where
  boat : D × D
  search : D × D
  searchBoxSize : D
  following : Bool
  /-- The boat has had a position. -/
  initial : Bool

namespace Course

variable {D : Type} [Double D]

/-- The boat is followed, and has moved far enough. -/
def leaves (c : Course D) : Bool :=
  c.following && !eq c.searchBoxSize (ofInt 0) &&
    le (computeFollowThresholdNm c.searchBoxSize c.boat.1)
      (greatCircleDistanceNm c.search.1 c.search.2 c.boat.1 c.boat.2)

theorem leaves_of_not_following {c : Course D} (h : c.following = false) : c.leaves = false := by
  rw [leaves, h, Bool.false_and, Bool.false_and]

/-- A fix of the boat. -/
def fix (lat lon : D) (c : Course D) : Course D :=
  { c with
    boat := (lat, lon)
    search := if !c.initial || leaves { c with boat := (lat, lon) } then (lat, lon) else c.search
    initial := true }

/-- A position is selected. -/
def select (lat lon : D) (c : Course D) : Course D :=
  { c with search := (lat, lon), following := false }

/-- Follow mode is turned on. -/
def follow (c : Course D) : Course D := { c with search := c.boat, following := true }

end Course

namespace MainGui

variable {D : Type} [Double D] {g g' : MainGui D} {toStdString : WxString → StdString}

/-- The course of the dialog. -/
def course (g : MainGui D) : Course D where
  boat := (g.boatLatitude, g.boatLongitude)
  search := (g.searchLatitude, g.searchLongitude)
  searchBoxSize := g.searchBoxSize
  following := g.followBoatMode
  initial := g.initialBoatPositionSet

/-! ### What the handlers make of the course -/

@[simp] theorem course_restartAisStream (g : MainGui D) : g.restartAisStream.course = g.course :=
  restartAisStream_frame (P := fun g' => g'.course = g.course) fun _ _ => rfl

@[simp] theorem course_stopAisStream (g : MainGui D) : g.stopAisStream.course = g.course :=
  stopAisStream_frame (P := fun g' => g'.course = g.course) fun _ _ => rfl

@[simp] theorem course_startAisStream (g : MainGui D) :
    (g.startAisStream toStdString).course = g.course :=
  startAisStream_frame (P := fun g' => g'.course = g.course) fun _ _ => rfl

theorem course_updateSearchPosition (lat lon : D) (g : MainGui D) :
    (g.updateSearchPosition lat lon).course = { g.course with search := (lat, lon) } :=
  course_restartAisStream _

theorem course_updateSearchZoneOnCoord (lat lon : D) (g : MainGui D) :
    (g.updateSearchZoneOnCoord lat lon).course = g.course.select lat lon :=
  course_updateSearchPosition _ _ _

theorem course_activateFollowBoatMode (g : MainGui D) :
    g.activateFollowBoatMode.course = g.course.follow :=
  course_updateSearchPosition _ _ _

theorem course_updateSearchBoxSize (degrees : D) (g : MainGui D) :
    ∃ size, (g.updateSearchBoxSize degrees).course = { g.course with searchBoxSize := size } :=
  ⟨_, course_restartAisStream _⟩

/-- Following the boat, once its position is known. -/
theorem course_followBoat (g : MainGui D) :
    g.followBoat.course
      = { g.course with search := if g.course.leaves then g.course.boat else g.course.search } := by
  have hleaves : g.course.leaves
      = (g.followBoatMode && !eq g.searchBoxSize (ofInt 0) && g.boatMovedFar) := rfl
  rw [hleaves]
  unfold followBoat
  cases g.followBoatMode with
  | false => rfl
  | true =>
      cases eq g.searchBoxSize (ofInt 0) with
      | true => rfl
      | false =>
          cases g.boatMovedFar with
          | false => rfl
          | true => exact course_updateSearchPosition _ _ _

/-- **What a fix of the boat makes of the course.** -/
theorem course_updateBoatPosition (lat lon : D) (g : MainGui D) :
    (g.updateBoatPosition lat lon).course = g.course.fix lat lon := by
  unfold updateBoatPosition setInitialPosition
  rw [course_followBoat]
  cases hinit : g.initialBoatPositionSet with
  | true =>
      simp only [if_true]
      rw [Course.fix, show g.course.initial = true from hinit]
      simp only [course, hinit, Bool.not_true, Bool.false_or]
      rfl
  | false =>
      simp only [Bool.false_eq_true, if_false]
      rw [course_updateSearchPosition, Course.fix, show g.course.initial = false from hinit,
        Bool.not_false, Bool.true_or, if_pos rfl]
      -- a boat at the search position is followed to where it is
      split <;> rfl

/-! ### Every event of the dialog -/

/-- The event is a fix of the boat or a selection by the cursor. -/
def steers : PluginEvent D → Bool
  | .positionFix _ _ => true
  | .contextMenu .updateToCursor => true
  | _ => false

/-- The event selects the position of the cursor. -/
def selectsCursor : PluginEvent D → Bool
  | .contextMenu .updateToCursor => true
  | _ => false

/-- What an event makes of the course. -/
inductive CourseMove (c : Course D) : PluginEvent D → Course D → Prop
  | resize {e : PluginEvent D} (size : D) (he : steers e = false) :
      CourseMove c e { c with searchBoxSize := size }
  | fix {lat lon : D} : CourseMove c (.positionFix lat lon) (c.fix lat lon)
  | select {lat lon : D} : CourseMove c (.contextMenu .updateToCursor) (c.select lat lon)
  | follow {e : PluginEvent D} (he : steers e = false) : CourseMove c e c.follow
  | leave {e : PluginEvent D} (he : steers e = false) :
      CourseMove c e { c with following := false }

theorem CourseMove.same {c : Course D} {e : PluginEvent D} (he : steers e = false) :
    CourseMove c e c :=
  .resize c.searchBoxSize he

theorem CourseMove.of_eq {c c₁ c₂ : Course D} {e : PluginEvent D} (h : CourseMove c e c₁)
    (heq : c₂ = c₁) : CourseMove c e c₂ := heq ▸ h

theorem course_onValueChanged (row column : Nat) (g : MainGui D) :
    (g.onValueChanged row column).course = g.course :=
  onValueChanged_frame (P := fun g' => g'.course = g.course) fun _ _ _ _ _ _ _ => rfl

theorem courseMove_ui {e : UiEvent} (hu : Plugin.uiStep toStdString e g = some g') :
    CourseMove g.course (.ui e) g'.course := by
  cases Plugin.uiMove_of_uiStep hu with
  | startStream => exact .of_eq (.same rfl) (course_startAisStream g)
  | stopStream => exact .of_eq (.same rfl) (course_stopAisStream g)
  | scroll kind value _ => exact .same rfl
  | thumbRelease value _ _ => exact .of_eq (.resize _ rfl) (course_restartAisStream _)
  | followBoat checked =>
      unfold onFollowBoatMode
      cases checked with
      | false => exact .leave rfl
      | true => exact .of_eq (.follow rfl) (course_updateSearchPosition _ _ _)
  | addMmsi mmsi comment _ =>
      unfold onAddMmsi
      split
      · exact .same rfl
      · exact .of_eq (.same rfl) (course_restartAisStream _)
  | deleteMmsi row =>
      unfold onDeleteMmsi
      split
      · exact .same rfl
      · split
        · exact .same rfl
        · exact .of_eq (.same rfl) (course_restartAisStream _)
  | clearMmsi => exact .of_eq (.same rfl) (course_restartAisStream _)
  | editCell row column text _ _ => exact .of_eq (.same rfl) (course_onValueChanged row column _)
  | vesselFollowing checked => exact .of_eq (.same rfl) (course_restartAisStream _)

theorem course_hidden (g : MainGui D) : (Plugin.hidden g).course = g.course :=
  Plugin.hidden_frame (P := fun g' => g'.course = g.course) fun _ _ => rfl

/-- **Every move of the dialog, on the course.** -/
theorem courseMove_of_guiMove {e : PluginEvent D} (hmove : Plugin.GuiMove toStdString g e g') :
    CourseMove g.course e g'.course := by
  cases hmove with
  | «show» => exact .same rfl
  | hide => exact .of_eq (.same rfl) (course_hidden g)
  | close => exact .of_eq (.same rfl) (course_hidden g)
  | ui hu => exact courseMove_ui hu
  | notify hn => exact .of_eq (.same rfl) (course_onValueChanged _ _ g.clearNotice)
  | skipNotify => exact .same rfl
  | positionFix => exact .of_eq .fix (course_updateBoatPosition _ _ g)
  | cursor | place | noAction => exact .same rfl
  | updateToCursor => exact .of_eq .select (course_updateSearchZoneOnCoord _ _ g)
  | updateToBoat => exact .of_eq (.follow rfl) (course_activateFollowBoatMode g)
  | preferencesApply => exact .same rfl
  | preferencesOk => exact .of_eq (.resize _ rfl) (course_restartAisStream _)

end MainGui

/-! ### The position held -/

/-- The event is no first fix while the boat is not followed, unless the boat is where the
search is. -/
def Course.fixExpected {D : Type} (e : PluginEvent D) (c : Course D) : Prop :=
  match e with
  | .positionFix lat lon => c.following = false → c.initial = true ∨ (lat, lon) = c.search
  | _ => True

theorem MainGui.CourseMove.held_iff {D : Type} [Double D] {c c' : Course D} {e : PluginEvent D}
    {held : Option (D × D)} (hmove : CourseMove c e c') (he : selectsCursor e = false)
    (hr : c.following = true → held = none) (hh : c.following = false → held = some c.search) :
    (c'.following = false → held.getD c'.search = c'.search) ↔ c.fixExpected e := by
  have hidle : ∀ {e : PluginEvent D}, steers e = false → c.fixExpected e := by
    intro e he
    unfold Course.fixExpected
    split
    · cases he
    · trivial
  -- what is held when the position does not change
  have hsame : held.getD c.search = c.search := by
    cases hf : c.following with
    | true => rw [hr hf, Option.getD_none]
    | false => rw [hh hf, Option.getD_some]
  cases hmove with
  | resize size he => exact ⟨fun _ => hidle he, fun _ _ => hsame⟩
  | select => cases he
  | follow he => exact ⟨fun _ => hidle he, fun _ hf => Bool.noConfusion hf⟩
  | leave he => exact ⟨fun _ => hidle he, fun _ _ => hsame⟩
  | @fix lat lon =>
      refine forall_congr' fun hf => ?_
      have hleaves : Course.leaves { c with boat := (lat, lon) } = false :=
        Course.leaves_of_not_following hf
      rw [Course.fix, hleaves, Bool.or_false, hh hf, Option.getD_some]
      cases hinit : c.initial with
      | true => simp
      | false => simp [eq_comm]

namespace Plugin

open MainGui

variable {D : Type} [Double D] {toStdString : WxString → StdString}

/-- The position held after a step: none while the boat is followed, the cursor's when it has
just been selected, else the one held before, or the one there was when follow mode was
turned off. -/
def heldAfter (held : Option (D × D)) (s : Plugin D) (e : PluginEvent D) (s' : Plugin D) :
    Option (D × D) :=
  match s'.dialog with
  | none => none
  | some d =>
      if d.followBoatMode then none
      else if selectsCursor e then some (s.cursorLat, s.cursorLon)
      else some (held.getD (d.searchLatitude, d.searchLongitude))

variable (toStdString) in
/-- The plugin, with a record of the position held. -/
def steered : System (Plugin D × Option (D × D)) (PluginEvent D) :=
  (system toStdString).observed heldAfter

/-- The record is of the runs there are. -/
theorem map_run_steered (s : Plugin D) (held : Option (D × D)) (events : List (PluginEvent D)) :
    ((steered toStdString).run (s, held) events).map Prod.fst
      = (system toStdString).run s events :=
  System.map_run_observed _ s held events

/-- **The position chosen by hand is the one searched.** -/
def Held (p : Plugin D × Option (D × D)) : Prop :=
  ∀ g, p.1.gui? = some g → g.followBoatMode = false →
    p.2 = some (g.searchLatitude, g.searchLongitude)

/-- No dialog receives its first fix while it does not follow the boat. -/
def fixExpected (s : Plugin D) (e : PluginEvent D) : Prop :=
  ∀ g, s.gui? = some g → g.course.fixExpected e

/-- Nothing is held while the boat is followed. -/
def Released (p : Plugin D × Option (D × D)) : Prop :=
  ∀ g, p.1.gui? = some g → g.followBoatMode = true → p.2 = none

theorem heldAfter_of_gui {held : Option (D × D)} {s s' : Plugin D} {e : PluginEvent D}
    {g' : MainGui D} (hg' : s'.gui? = some g') :
    heldAfter held s e s' = if g'.followBoatMode then none
      else if selectsCursor e then some (s.cursorLat, s.cursorLon)
      else some (held.getD (g'.searchLatitude, g'.searchLongitude)) := by
  obtain ⟨d, hd, rfl⟩ := Option.map_eq_some_iff.mp hg'
  rw [heldAfter, hd]

theorem released_step {p p' : Plugin D × Option (D × D)} {e : PluginEvent D}
    (hstep : (steered toStdString).step p e = some p') : Released p' := by
  obtain ⟨-, hheld⟩ := System.step_observed hstep
  intro g' hg' hfollow
  rw [hheld, heldAfter_of_gui hg', if_pos hfollow]

/-- A selection by the cursor is held. -/
theorem held_of_selectsCursor {p p' : Plugin D × Option (D × D)} {e : PluginEvent D}
    (he : selectsCursor e = true) (hstep : (steered toStdString).step p e = some p') : Held p' := by
  obtain ⟨hst, hheld⟩ := System.step_observed hstep
  have hmove := move_of_step hst
  intro g' hg' hmanual
  rw [hheld, heldAfter_of_gui hg', hmanual, if_neg Bool.false_ne_true, if_pos he]
  generalize p'.1 = s' at hmove hg'
  cases hmove with
  | @contextMenu action =>
      cases action with
      | updateToCursor =>
          rw [show p.1.onContextMenuItemCallback .updateToCursor
            = p.1.onGui (.updateSearchZoneOnCoord p.1.cursorLat p.1.cursorLon) from rfl,
            gui_onGui] at hg'
          obtain ⟨g, -, rfl⟩ := Option.map_eq_some_iff.mp hg'
          have hcourse := course_updateSearchZoneOnCoord p.1.cursorLat p.1.cursorLon g
          exact congrArg some (congrArg Course.search hcourse).symm
      | none => cases he
      | updateToBoat => cases he
  | _ => cases he

/-- **A held position stays, exactly in the events that meet the condition.** -/
theorem held_step_iff {p p' : Plugin D × Option (D × D)} {e : PluginEvent D} (hr : Released p)
    (hh : Held p) (hstep : (steered toStdString).step p e = some p') :
    Held p' ↔ p.1.fixExpected e := by
  cases he : selectsCursor e with
  | true =>
      refine ⟨fun _ g _ => ?_, fun _ => held_of_selectsCursor he hstep⟩
      unfold selectsCursor at he
      split at he
      · trivial
      · cases he
  | false =>
      obtain ⟨hst, hheld⟩ := System.step_observed hstep
      refine forall_gui_step_iff (move_of_step hst) (fun g g' hg hg' hm => ?_)
        (fun g' _ hcreated hm hmanual => ?_) ?_
      · have hiff := (courseMove_of_guiMove hm).held_iff he (hr g hg) (hh g hg)
        refine Iff.trans (forall_congr' fun hmanual => ?_) hiff
        rw [hheld, heldAfter_of_gui hg', hmanual, if_neg Bool.false_ne_true, he,
          if_neg Bool.false_ne_true, Option.some.injEq]
        rfl
      · subst hcreated
        have hcourse : g'.course = (MainGui.create p.1.settings).course := by
          cases hm with
          | «show» => rfl
          | hide => exact course_hidden _
        have hfollow : (MainGui.create p.1.settings).course.following = true := by
          obtain ⟨size, hsize⟩ := course_updateSearchBoxSize p.1.settings.lastSearchBoxSize
            ({ settings := p.1.settings } : MainGui D)
          exact congrArg Course.following hsize
        rw [← hcourse] at hfollow
        exact absurd (hmanual.symm.trans hfollow) Bool.false_ne_true
      · rintro (⟨rfl, -⟩ | rfl) g _ <;> trivial

/--
**A position chosen by hand stays until it is chosen again or the boat is followed, exactly as
long as no first fix moves it.**  In every state of a run, over any number of dialogs, the
search position is the one last selected by the cursor, or left when follow mode was turned
off, if and only if no dialog of the run receives its first fix while it does not follow the
boat, at another position than the one it searches.
-/
theorem selection_held_iff (config : Config D) (events : List (PluginEvent D)) :
    (steered toStdString).Always Held ({ config }, none) events ↔
      (steered toStdString).AllSteps (fun p e => p.1.fixExpected e) ({ config }, none) events :=
  System.always_iff_allSteps (I := Released) (fun _ _ _ _ hstep => released_step hstep)
    (fun _ _ _ hr hh hstep => held_step_iff hr hh hstep) events ({ config }, none)
    (fun _ hg => nomatch hg) fun _ hg => nomatch hg

/-- A position selected where the boat's first fix is, kept while the boat leaves it and through
a Clear, and given up for the boat. -/
theorem selection_held_iff_thenBoat :
    (steered fun _ => []).Always Held (({}, none) : Plugin ℝ × Option (ℝ × ℝ))
      [.init, .toolbar, .cursor 43 7, .contextMenu .updateToCursor, .positionFix 43 7,
        .positionFix 48 (-5), .ui .clearMmsi, .contextMenu .updateToBoat,
        .positionFix 49 (-5)] := by
  refine (selection_held_iff {} _).mpr fun p₁ h₁ => ⟨fun _ _ => trivial, fun p₂ h₂ => ?_⟩
  refine ⟨fun _ _ => trivial, fun p₃ h₃ => ⟨fun _ _ => trivial, fun p₄ h₄ => ?_⟩⟩
  cases h₁
  cases h₂
  cases h₃
  cases h₄
  refine ⟨fun _ _ => trivial, fun p₅ h₅ => ⟨?_, fun p₆ h₆ => ⟨?_, fun p₇ h₇ => ?_⟩⟩⟩
  · -- the first fix is at the selected position
    cases h₅
    intro g hg _
    cases hg
    exact .inr rfl
  · -- the boat has left it
    cases h₅
    cases h₆
    intro g hg _
    cases hg
    exact .inl rfl
  · refine ⟨fun _ _ => trivial, fun p₈ h₈ => ⟨fun _ _ => trivial, fun p₉ h₉ => ⟨?_, trivial⟩⟩⟩
    cases h₅
    cases h₆
    cases h₇
    cases h₈
    intro g hg hmanual
    cases hg
    cases hmanual

/-- A position selected before the first fix, which moves it. -/
theorem first_fix_moves_selection :
    ∃ p : Plugin ℝ × Option (ℝ × ℝ), (steered fun _ => []).run ({}, none)
      [.init, .toolbar, .cursor 43 7, .contextMenu .updateToCursor, .positionFix 48 (-5)]
        = some p ∧ ¬Held p := by
  refine ⟨_, rfl, fun h => ?_⟩
  have hsearch : some ((43 : ℝ), (7 : ℝ)) = some (48, -5) := h _ rfl rfl
  rw [Option.some.injEq, Prod.mk.injEq] at hsearch
  norm_num at hsearch

end Plugin

end AisLive
