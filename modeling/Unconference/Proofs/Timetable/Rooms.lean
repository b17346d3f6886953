import Unconference.Proofs.Ledger.Bookkeeping
import Unconference.Proofs.Slot.Attendance
import Unconference.Proofs.Timetable.Sessions

/-!
# Who gets which room

The discussions of a slot are ranked by how many users of the ledger attend them; where there are as
many, the order of the slot decides.  By this rank they get the places one after the other, and
those for which there is none are together in the location that is not a place.  Neither the ranking
nor the walk through the calendar looks at what was shown before, so showing a schedule twice is
the same as showing it once.
-/

namespace Unconference

/-- How many users of the ledger attend `discussion`. -/
def Slot.crowd (slot : Slot) (ledger : Ledger) (discussion : DiscussionId) : Nat :=
  ledger.userIds.countP fun user => slot.attending user = some discussion

/-- A discussion on display, as far as its rank depends on it. -/
def ShownDiscussion.standing (shown : ShownDiscussion) : DiscussionId × Nat :=
  (shown.id, shown.attendeeCount)

@[simp] theorem ShownDiscussion.standing_locatedAt
    (shown : ShownDiscussion) (location : Option Location) :
    (shown.locatedAt location).standing = shown.standing := by
  cases location <;> rfl

namespace Timetable

variable {timetable : Timetable} {schedule : Schedule} {ledger : Ledger} {slot : Slot}

/-! ## Ranking -/

/-- The order by rank. -/
def busier (a b : ShownDiscussion) : Bool := b.attendeeCount ≤ a.attendeeCount

/-- The discussions of a slot in the order in which they get their locations. -/
def ranked (ledger : Ledger) (slot : Slot) : List ShownDiscussion :=
  (slot.discussions.filterMap (shown? ledger slot)).mergeSort busier

theorem busier_trans (a b c : ShownDiscussion) (hab : busier a b) (hbc : busier b c) :
    busier a c := by
  simp only [busier, decide_eq_true_eq] at *
  omega

theorem busier_total (a b : ShownDiscussion) : busier a b || busier b a := by
  simp only [busier, Bool.or_eq_true, decide_eq_true_eq]
  omega

theorem shownIn_eq (timetable : Timetable) (ledger : Ledger) (slot : Slot) :
    timetable.shownIn ledger slot = (ranked ledger slot).mapIdx fun position discussion =>
      discussion.locatedAt (timetable.locationAt position) := rfl

theorem length_names_attendees (ledger : Ledger) (slot : Slot) (discussion : DiscussionId) :
    (names ledger (slot.attendees discussion)).length = slot.crowd ledger discussion := by
  calc
    (names ledger (slot.attendees discussion)).length =
        ((slot.attendees discussion).filter (· ∈ ledger.userIds)).length := by
      unfold names
      rw [List.length_filterMap_eq_countP, ← List.countP_eq_length_filter]
      simp [← Ledger.user?_isSome_iff]
    _ = (ledger.userIds.filter fun user => slot.attending user = some discussion).length :=
      (slot.perm_known_attendees ledger discussion).length_eq
    _ = slot.crowd ledger discussion := List.countP_eq_length_filter.symm

/-- Before they are ranked, the discussions stand in the order of the slot. -/
theorem standing_shown (ledger : Ledger) (slot : Slot) (discussions : List DiscussionId) :
    (discussions.filterMap (shown? ledger slot)).map (·.standing) =
      (ledger.known discussions).map fun discussion =>
        (discussion, slot.crowd ledger discussion) := by
  unfold ShownDiscussion.standing Ledger.known
  induction discussions with
  | nil => rfl
  | cons discussion rest ih =>
      cases hrecord : ledger.discussion? discussion <;>
        simp [shown?, hrecord, ih, length_names_attendees]

theorem standing_shownIn (timetable : Timetable) (ledger : Ledger) (slot : Slot) :
    (timetable.shownIn ledger slot).map (·.standing) =
      (ranked ledger slot).map (·.standing) := by
  rw [shownIn_eq, map_located ShownDiscussion.standing_locatedAt]

theorem perm_standing_ranked (ledger : Ledger) (slot : Slot) :
    ((ranked ledger slot).map (·.standing)).Perm
      ((ledger.known slot.discussions).map fun discussion =>
        (discussion, slot.crowd ledger discussion)) := by
  rw [← standing_shown]
  exact (List.mergeSort_perm _ _).map _

theorem pairwise_ranked (ledger : Ledger) (slot : Slot) :
    (ranked ledger slot).Pairwise fun a b => b.attendeeCount ≤ a.attendeeCount :=
  (List.pairwise_mergeSort busier_trans busier_total _).imp fun hle => of_decide_eq_true hle

/-- Discussions with as many attendees as each other are in order before they are ranked, so they
stay in it. -/
theorem filter_ranked (ledger : Ledger) (slot : Slot) (count : Nat) :
    (ranked ledger slot).filter (·.attendeeCount = count) =
      (slot.discussions.filterMap (shown? ledger slot)).filter (·.attendeeCount = count) := by
  have hequal : ((slot.discussions.filterMap (shown? ledger slot)).filter
      (·.attendeeCount = count)).Pairwise (busier · ·) := by
    refine List.pairwise_of_forall_mem_list fun a ha b hb => ?_
    have hleft := (List.mem_filter.1 ha).2
    have hright := (List.mem_filter.1 hb).2
    simp only [decide_eq_true_eq, busier] at *
    omega
  -- filtered once more, both sides are sublists as long as each other
  have hsublist := (List.sublist_mergeSort busier_trans busier_total hequal
    List.filter_sublist).filter (·.attendeeCount = count)
  rw [List.filter_filter] at hsublist
  simp only [Bool.and_self] at hsublist
  exact (hsublist.eq_of_length ((List.mergeSort_perm _ _).filter _).length_eq.symm).symm

theorem ids_filter_attendeeCount (shown : List ShownDiscussion) (count : Nat) :
    (shown.filter (·.attendeeCount = count)).map (·.id) =
      ((shown.map (·.standing)).filter (·.2 = count)).map (·.1) := by
  rw [List.filter_map, List.map_map]
  rfl

/-! ## Locations -/

/-- The numbers of the locations that `count` discussions get: all places there are, or as many of
them as are needed, and for the rest the location after them. -/
def roomNumbers (count places : Nat) : List Nat :=
  List.range (min count places) ++ List.replicate (count - places) places

theorem getElem?_roomNumbers {count places position : Nat} (hlt : position < count) :
    (roomNumbers count places)[position]? = some (min position places) := by
  unfold roomNumbers
  by_cases hplace : position < places
  · rw [List.getElem?_append_left (by simp; omega), List.getElem?_range (by omega),
      min_eq_left hplace.le]
  · rw [List.getElem?_append_right (by simp; omega), List.getElem?_replicate,
      if_pos (by simp; omega), min_eq_right (not_lt.1 hplace)]

theorem length_roomNumbers (count places : Nat) : (roomNumbers count places).length = count := by
  simp [roomNumbers]
  omega

theorem count_roomNumbers_le_one {count places room : Nat} (hplace : room < places) :
    (roomNumbers count places).count room ≤ 1 := by
  have hrange := List.nodup_iff_count_le_one.1 (List.nodup_range (n := min count places)) room
  have hne : places ≠ room := by omega
  simpa [roomNumbers, List.count_append, List.count_replicate, hne] using hrange

/-- Somebody is left without a place only when all places are taken. -/
theorem mem_roomNumbers {count places room : Nat} (hfull : places ∈ roomNumbers count places)
    (hplace : room < places) : room ∈ roomNumbers count places := by
  simp only [roomNumbers, List.mem_append, List.mem_range, List.mem_replicate] at *
  omega

theorem hasCatchAll_iff :
    timetable.hasCatchAll = true ↔
      ∃ last, timetable.locations = timetable.places ++ [last] ∧ last.isPlace = false := by
  constructor
  · intro hcatchAll
    unfold hasCatchAll at hcatchAll
    cases hlast : timetable.locations.getLast? with
    | none => simp [hlast] at hcatchAll
    | some last =>
        obtain ⟨others, hlocations⟩ := List.getLast?_eq_some_iff.1 hlast
        simp only [hlocations, List.getLast?_concat, List.dropLast_concat, Bool.and_eq_true,
          List.all_eq_true, Bool.not_eq_true'] at hcatchAll
        obtain ⟨hcatchAll, hplaces⟩ := hcatchAll
        refine ⟨last, ?_, hcatchAll⟩
        rw [places, hlocations, List.filter_append, List.filter_eq_self.2 hplaces]
        simp [hcatchAll]
  · rintro ⟨last, hlocations, hcatchAll⟩
    unfold hasCatchAll
    rw [hlocations]
    simp [hcatchAll, places]

/-- The places come first, so a location is found by its number among all of them. -/
theorem locationAt_eq
    {last : Location} (hlocations : timetable.locations = timetable.places ++ [last])
    (position : Nat) :
    timetable.locationAt position =
      timetable.locations[min position timetable.places.length]? := by
  unfold locationAt
  rw [hlocations]
  by_cases hplace : position < timetable.places.length
  · rw [min_eq_left hplace.le, List.getElem?_append_left hplace, List.getElem?_eq_getElem hplace,
      Option.some_or]
  · simp [not_lt.1 hplace]

/-- The discussions of a slot are in the locations with these numbers.  The numbers below the number
of places are those of the places, and the next one is that of the location for the rest. -/
structure Allots (timetable : Timetable) (rooms : List Nat) (shown : List ShownDiscussion) :
    Prop where
  named : shown.map (fun discussion => some discussion.location) =
    rooms.map fun room => (timetable.locations[room]?).map (·.name)
  place : ∀ position < shown.length, position < timetable.places.length →
    rooms[position]? = some position
  catchAll : ∀ position < shown.length, timetable.places.length ≤ position →
    rooms[position]? = some timetable.places.length
  once : ∀ room < timetable.places.length, rooms.count room ≤ 1
  full : timetable.places.length ∈ rooms → ∀ room < timetable.places.length, room ∈ rooms

/-- The slot is shown by rank, with the places given out by rank. -/
structure Houses (timetable : Timetable) (ledger : Ledger) (slot : Slot)
    (shown : List ShownDiscussion) : Prop where
  known : (shown.map (·.id)).Perm (ledger.known slot.discussions)
  counted : ∀ discussion ∈ shown,
    discussion.attendeeCount = slot.crowd ledger discussion.id
  descending : shown.Pairwise fun a b => b.attendeeCount ≤ a.attendeeCount
  stable : ∀ count, (shown.filter (·.attendeeCount = count)).map (·.id) =
    (ledger.known slot.discussions).filter (slot.crowd ledger · = count)
  allotted : ∃ rooms, timetable.Allots rooms shown

theorem location_shownIn
    {last : Location} (hlocations : timetable.locations = timetable.places ++ [last])
    {position : Nat} {shown : ShownDiscussion}
    (hshown : (timetable.shownIn ledger slot)[position]? = some shown) :
    (timetable.locations[min position timetable.places.length]?).map (·.name) =
      some shown.location := by
  have hroom : min position timetable.places.length < timetable.locations.length := by
    rw [hlocations, List.length_append, List.length_singleton]
    omega
  rw [shownIn_eq, List.getElem?_mapIdx] at hshown
  obtain ⟨plain, _, rfl⟩ := Option.map_eq_some_iff.1 hshown
  rw [locationAt_eq hlocations, List.getElem?_eq_getElem hroom]
  rfl

theorem allots_shownIn
    {last : Location} (hlocations : timetable.locations = timetable.places ++ [last])
    (ledger : Ledger) (slot : Slot) :
    timetable.Allots
      (roomNumbers (timetable.shownIn ledger slot).length timetable.places.length)
      (timetable.shownIn ledger slot) where
  named := by
    apply List.ext_getElem?
    intro position
    rw [List.getElem?_map, List.getElem?_map]
    cases hshown : (timetable.shownIn ledger slot)[position]? with
    | none =>
        have hpast := List.getElem?_eq_none_iff.1 hshown
        rw [List.getElem?_eq_none (by rwa [length_roomNumbers])]
        rfl
    | some shown =>
        obtain ⟨hlt, _⟩ := List.getElem?_eq_some_iff.1 hshown
        rw [getElem?_roomNumbers hlt, Option.map_some, Option.map_some,
          location_shownIn hlocations hshown]
  place position hlt hplace := by
    rw [getElem?_roomNumbers hlt, min_eq_left hplace.le]
  catchAll position hlt hpast := by
    rw [getElem?_roomNumbers hlt, min_eq_right hpast]
  once _ hplace := count_roomNumbers_le_one hplace
  full hfull _ hplace := mem_roomNumbers hfull hplace

theorem houses_shownIn
    {last : Location} (hlocations : timetable.locations = timetable.places ++ [last])
    (ledger : Ledger) (slot : Slot) :
    timetable.Houses ledger slot (timetable.shownIn ledger slot) where
  known := timetable.ids_shownIn ledger slot
  counted discussion hmem := by
    have hstanding := List.mem_map_of_mem (f := (·.standing)) hmem
    rw [standing_shownIn] at hstanding
    obtain ⟨known, _, hsame⟩ :=
      List.mem_map.1 ((perm_standing_ranked ledger slot).subset hstanding)
    obtain ⟨hid, hcount⟩ := Prod.mk.inj hsame
    rw [← hid, ← hcount]
  descending := by
    have hstandings : ((timetable.shownIn ledger slot).map (·.standing)).Pairwise
        fun a b => b.2 ≤ a.2 := by
      rw [standing_shownIn]
      exact List.pairwise_map.2 (pairwise_ranked ledger slot)
    exact List.pairwise_map.1 hstandings
  stable count := by
    calc
      ((timetable.shownIn ledger slot).filter (·.attendeeCount = count)).map (·.id) =
          ((ranked ledger slot).filter (·.attendeeCount = count)).map (·.id) := by
        rw [ids_filter_attendeeCount, standing_shownIn, ← ids_filter_attendeeCount]
      _ = _ := by
        rw [filter_ranked, ids_filter_attendeeCount, standing_shown, List.filter_map,
          List.map_map]
        simp [Function.comp_def]
  allotted := ⟨_, allots_shownIn hlocations ledger slot⟩

/-! ## What was shown before -/

theorem fillSlots_map_cleared
    (slots : List TimetableSlot) (shown : List (List ShownDiscussion)) :
    fillSlots (slots.map TimetableSlot.cleared) shown = fillSlots slots shown := by
  induction slots generalizing shown with
  | nil => rfl
  | cons slot rest ih =>
      simp only [List.map_cons, fillSlots, ih, TimetableSlot.isBreak_cleared]
      by_cases hbreak : slot.isBreak = true <;> simp [hbreak, TimetableSlot.cleared]

theorem fillDays_map_cleared (days : List Day) (shown : List (List ShownDiscussion)) :
    fillDays (days.map Day.cleared) shown = fillDays days shown := by
  induction days generalizing shown with
  | nil => rfl
  | cons day rest ih => simp [fillDays, Day.cleared, fillSlots_map_cleared, ih]

theorem slotCount_eq_of_cleared_eq
    {other : Timetable} (hcleared : other.cleared = timetable.cleared) :
    other.slotCount = timetable.slotCount := by
  rw [slotCount_eq_of_outline, ← outline_cleared, hcleared, outline_cleared,
    ← slotCount_eq_of_outline]

theorem locations_eq_of_cleared_eq
    {other : Timetable} (hcleared : other.cleared = timetable.cleared) :
    other.locations = timetable.locations := by
  change other.cleared.locations = timetable.cleared.locations
  rw [hcleared]

theorem fillDays_eq_of_cleared_eq
    {other : Timetable} (hcleared : other.cleared = timetable.cleared)
    (shown : List (List ShownDiscussion)) :
    fillDays other.days shown = fillDays timetable.days shown := by
  rw [← fillDays_map_cleared, ← fillDays_map_cleared timetable.days]
  change fillDays other.cleared.days shown = fillDays timetable.cleared.days shown
  rw [hcleared]

theorem place_eq_of_cleared_eq
    {other : Timetable} (hcleared : other.cleared = timetable.cleared)
    (hplace : (timetable.place schedule ledger).1 = .ok ()) :
    other.place schedule ledger = timetable.place schedule ledger := by
  have hlocations := locations_eq_of_cleared_eq hcleared
  have hother : (other.place schedule ledger).1 = .ok () := by
    rw [place_eq_ok_iff] at hplace ⊢
    rwa [slotCount_eq_of_cleared_eq hcleared, hasCatchAll, hlocations]
  rw [place_of_eq_ok hplace, place_of_eq_ok hother, shownIn_congr hlocations,
    fillDays_eq_of_cleared_eq hcleared, hlocations]

theorem place_place (timetable : Timetable) (schedule : Schedule) (ledger : Ledger) :
    (timetable.place schedule ledger).2.place schedule ledger =
      timetable.place schedule ledger := by
  by_cases hplace : (timetable.place schedule ledger).1 = .ok ()
  · exact place_eq_of_cleared_eq (timetable.cleared_place schedule ledger) hplace
  · rw [place_snd_of_ne_ok hplace]

/-- The slot with this number of the day with that number. -/
def slotAt? (timetable : Timetable) (day index : Nat) : Option TimetableSlot :=
  timetable.days[day]?.bind fun day => day.slots[index]?

theorem slotAt?_cleared (timetable : Timetable) (day index : Nat) :
    timetable.cleared.slotAt? day index =
      (timetable.slotAt? day index).map TimetableSlot.cleared := by
  unfold slotAt? cleared Day.cleared
  cases hday : timetable.days[day]? <;> simp [hday]

theorem slotAt?_eq_of_isBreak
    {other : Timetable} (hcleared : other.cleared = timetable.cleared) {day index : Nat}
    {slot : TimetableSlot} (hslot : timetable.slotAt? day index = some slot)
    (hbreak : slot.isBreak = true) : other.slotAt? day index = some slot := by
  have hsame := other.slotAt?_cleared day index
  rw [hcleared, slotAt?_cleared, hslot, Option.map_some] at hsame
  obtain ⟨found, hfound, hclearedSlot⟩ := Option.map_eq_some_iff.1 hsame.symm
  have hfoundBreak : found.isBreak = true := by
    rw [← found.isBreak_cleared, hclearedSlot, slot.isBreak_cleared, hbreak]
  have hkept : found = slot := by
    simpa [TimetableSlot.cleared, hbreak, hfoundBreak] using hclearedSlot
  rw [hfound, hkept]

theorem houses_place
    {last : Location} (hlocations : timetable.locations = timetable.places ++ [last])
    (hplace : (timetable.place schedule ledger).1 = .ok ()) {index : Nat}
    (hslot : schedule.slot? index = some slot) :
    ∃ session, (timetable.place schedule ledger).2.sessions[index]? = some session ∧
      timetable.Houses ledger slot session.discussions := by
  have hshown := congrArg (·[index]?) (discussions_place hplace).2
  simp only [List.getElem?_map] at hshown
  change schedule.slots[index]? = some slot at hslot
  rw [hslot, Option.map_some] at hshown
  obtain ⟨session, hsession, hdiscussions⟩ := Option.map_eq_some_iff.1 hshown
  refine ⟨session, hsession, ?_⟩
  rw [hdiscussions]
  exact houses_shownIn hlocations ledger slot

/-- A schedule is shown exactly if it fits the calendar and the last location is the only one that
is not a place; otherwise nothing changes.  Every slot is then shown by rank with the places given
out by rank, breaks stay as they are, and what was shown before makes no difference. -/
theorem place_gives_out_places
    (timetable : Timetable) (schedule : Schedule) (ledger : Ledger) :
    ((timetable.place schedule ledger).1 = .ok () ↔
      schedule.size = timetable.sessions.length ∧
        ∃ last, timetable.locations = timetable.places ++ [last] ∧ last.isPlace = false) ∧
    -- refused, it changes nothing
    (∀ cause, (timetable.place schedule ledger).1 = .error cause →
      (timetable.place schedule ledger).2 = timetable) ∧
    ((timetable.place schedule ledger).1 = .ok () →
      (∀ index slot, schedule.slot? index = some slot →
        ∃ session, (timetable.place schedule ledger).2.sessions[index]? = some session ∧
          timetable.Houses ledger slot session.discussions) ∧
      -- nothing changes but what the sessions show
      (timetable.place schedule ledger).2.cleared = timetable.cleared ∧
      (∀ day index slot, timetable.slotAt? day index = some slot → slot.isBreak = true →
        (timetable.place schedule ledger).2.slotAt? day index = some slot) ∧
      -- and what they showed before makes no difference
      ∀ other : Timetable, other.cleared = timetable.cleared →
        other.place schedule ledger = timetable.place schedule ledger) ∧
    (timetable.place schedule ledger).2.place schedule ledger =
      timetable.place schedule ledger := by
  have hcleared := timetable.cleared_place schedule ledger
  refine ⟨?_, fun cause hplace => ?_, fun hplace => ⟨fun index slot hslot => ?_, hcleared,
    fun _ _ _ => slotAt?_eq_of_isBreak hcleared,
    fun _ hother => place_eq_of_cleared_eq hother hplace⟩,
    timetable.place_place schedule ledger⟩
  · rw [place_eq_ok_iff, hasCatchAll_iff, length_sessions]
  · exact place_snd_of_ne_ok (by simp [hplace])
  · obtain ⟨last, hlocations, _⟩ := hasCatchAll_iff.1 (place_eq_ok_iff.1 hplace).2
    exact houses_place hlocations hplace hslot

/-- Four users and three discussions. -/
def fourGuests : Ledger where
  users := ["ada", "ben", "cleo", "dan"].map fun name => { name }
  discussions := ["compilers", "databases", "elevators"].map fun title =>
    { owner := ⟨0⟩, title, isPublic := true, possibleSlots := ∅ }

/-- The second discussion has two guests, the others one each.  There are a discussion and a user
besides that nobody knows. -/
def crowdedSlot : Slot :=
  ((((({ discussions := [⟨0⟩, ⟨3⟩, ⟨1⟩, ⟨2⟩] } : Slot).seat ⟨0⟩ ⟨0⟩).seat ⟨1⟩ ⟨1⟩).seat
    ⟨2⟩ ⟨1⟩).seat ⟨3⟩ ⟨2⟩).seat ⟨9⟩ ⟨2⟩

def welcome : ShownDiscussion where
  id := ⟨3⟩
  title := "welcome"
  location := "lobby"
  attendeeCount := 0
  score := 0
  attending := []
  missing := []

/-- A calendar with one place that still shows something in a session and in a break. -/
def oneHall : Timetable where
  days := [{
    name := "Monday"
    slots := [{ time := "09:00", discussions := [welcome] },
      { time := "10:00", isBreak := true, discussions := [welcome] }, { time := "11:00" }] }]
  locations := [{ name := "hall" }, { name := "lobby", isPlace := false }]

theorem place_gives_out_places_of_crowdedSlot :
    (oneHall.place { slots := [crowdedSlot, ∅] } fourGuests).1 = .ok () ∧
      (∃ session,
        (oneHall.place { slots := [crowdedSlot, ∅] } fourGuests).2.sessions[0]? =
            some session ∧
          oneHall.Houses fourGuests crowdedSlot session.discussions ∧
          (session.discussions.map (·.id)).Perm [⟨0⟩, ⟨1⟩, ⟨2⟩] ∧
          (session.discussions.filter (·.attendeeCount = 1)).map (·.id) = [⟨0⟩, ⟨2⟩] ∧
          (session.discussions.filter (·.attendeeCount = 2)).map (·.id) = [⟨1⟩]) ∧
      (oneHall.place { slots := [crowdedSlot, ∅] } fourGuests).2.slotAt? 0 1 =
        some { time := "10:00", isBreak := true, discussions := [welcome] } ∧
      (oneHall.place { slots := [crowdedSlot] } fourGuests).2 = oneHall := by
  obtain ⟨_, hfailure, _⟩ := place_gives_out_places oneHall { slots := [crowdedSlot] } fourGuests
  obtain ⟨hsuccess, _, hshown, _⟩ :=
    place_gives_out_places oneHall { slots := [crowdedSlot, ∅] } fourGuests
  have hplace := hsuccess.2 ⟨by decide, ⟨"lobby", 0, false⟩, by decide, by decide⟩
  obtain ⟨hhouses, _, hbreaks, _⟩ := hshown hplace
  obtain ⟨session, hsession, hhoused⟩ := hhouses 0 crowdedSlot rfl
  refine ⟨hplace, ⟨session, hsession, hhoused, hhoused.known, ?_, ?_⟩,
    hbreaks 0 1 _ rfl rfl, hfailure _ rfl⟩
  · rw [hhoused.stable]
    decide
  · rw [hhoused.stable]
    decide

end Timetable

end Unconference
