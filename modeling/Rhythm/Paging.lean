import Mathlib.Data.List.Sort
import Mathlib.Data.List.TakeWhile
import Mathlib.Data.Nat.Find
import Mathlib.Data.Set.Finite.Lemmas

/-!
# Rhythm.Paging

Paging by a cursor.  The items come sorted by time, the latest first; where several have the same
time, each call may list them in another order.  A page begins with the first item that comes after
the last item of the page before, by time and then by key.

`listsAll_iff`: all pages together have each item once, whatever the orders, exactly when every page
but the last ends with an item that is alone at its time and that a cursor can stand for.
-/

namespace Rhythm.Paging

variable {α τ κ : Type} [LinearOrder τ] [LinearOrder κ]

/-! ## Pages -/

section Pages

variable (time : α → τ) (key : α → κ) (valid : α → Prop) [DecidablePred valid]

/-- `a` comes after the cursor `c`. -/
def Later (c a : α) : Prop := time a < time c ∨ time a = time c ∧ key a < key c

instance (c : α) : DecidablePred (Later time key c) := fun _ => inferInstanceAs (Decidable (_ ∨ _))

/-- The items from the first one after the cursor; without a valid one, all. -/
def rest (items : List α) : Option α → List α
  | none => items
  | some c => if valid c then items.dropWhile fun a => ¬ Later time key c a else items

def page (limit : Nat) (items : List α) (c : Option α) : List α × Bool :=
  ((rest time key valid items c).take limit, limit < (rest time key valid items c).length)

/-- The items of all pages, the calls being numbered; `none` when the fuel is spent. -/
def follow (fetch : Nat → Option α → List α × Bool) : Nat → Nat → Option α → Option (List α)
  | 0, _, _ => none
  | fuel + 1, n, c =>
    if (fetch n c).2 then
      match (fetch n c).1.getLast? with
      | none => none
      | some last => (follow fetch fuel (n + 1) (some last)).map ((fetch n c).1 ++ ·)
    else some (fetch n c).1

/-- The items in an order of the source: by time. -/
structure Listing (source items : List α) : Prop where
  perm : items.Perm source
  sorted : items.Pairwise fun a b => time b ≤ time a

/-- **The law**: whatever the orders, all pages together have each item once. -/
def ListsAll (limit : Nat) (source : List α) : Prop :=
  ∀ listing : Nat → List α, (∀ n, Listing time source (listing n)) →
    ∃ fuel items, follow (fun n => page time key valid limit (listing n)) fuel 0 none = some items ∧
      items.Perm source

def before (source : List α) (a : α) : Nat := source.countP fun b => time a < time b

def same (source : List α) (a : α) : Nat := source.countP fun b => time b = time a

/-- Page number `k` is not the last, and may end with the item. -/
def MayEnd (limit : Nat) (source : List α) (k : Nat) (a : α) : Prop :=
  0 < k ∧ k * limit < source.length ∧ before time source a < k * limit ∧
    k * limit ≤ before time source a + same time source a

/-- The pages end with items that are alone at their time and that a cursor can stand for. -/
def PageEndsAlone (limit : Nat) (source : List α) : Prop :=
  ∀ a ∈ source, ∀ k, MayEnd time limit source k a → same time source a = 1 ∧ valid a

end Pages

/-! ## Sorted items -/

section Sorted

variable {time : α → τ} {key : α → κ} {valid : α → Prop} [DecidablePred valid]
  {source items : List α} {limit : Nat}

theorem Listing.countP_eq (h : Listing time source items) (p : α → Bool) :
    items.countP p = source.countP p :=
  h.perm.countP_eq p

theorem filter_append_filter (hsorted : items.Pairwise fun a b => time b ≤ time a) (t : τ) :
    items.filter (fun a => t ≤ time a) ++ items.filter (fun a => time a < t) = items := by
  induction items with
  | nil => rfl
  | cons a items ih =>
    obtain ⟨hhead, htail⟩ := List.pairwise_cons.mp hsorted
    by_cases ha : t ≤ time a
    · simpa [ha, not_lt.mpr ha] using ih htail
    · have hall : ∀ b ∈ items, time b < t := fun b hb => (hhead b hb).trans_lt (not_le.mp ha)
      have hnone : items.filter (fun a => t ≤ time a) = [] := by
        simpa [List.filter_eq_nil_iff] using hall
      have hfull : items.filter (fun a => time a < t) = items := by
        simpa [List.filter_eq_self] using hall
      simp [ha, not_le.mp ha, hnone, hfull]

theorem before_add_same (a : α) :
    before time source a + same time source a = source.countP fun b => time a ≤ time b := by
  induction source with
  | nil => rfl
  | cons b source ih =>
    grind [before, same]

theorem mayEnd_of_take (h : Listing time source items) {k : Nat} (hk : 0 < k)
    (hmore : k * limit < source.length) {init tail : List α} {a : α}
    (hitems : items = init ++ a :: tail) (hlength : init.length + 1 = k * limit) :
    MayEnd time limit source k a := by
  have hsorted := h.sorted
  rw [hitems, List.pairwise_append, List.pairwise_cons] at hsorted
  obtain ⟨-, ⟨htail, -⟩, hinit⟩ := hsorted
  refine ⟨hk, hmore, ?_, ?_⟩
  · have hcount : before time source a = init.countP fun b => time a < time b := by
      rw [before, ← h.countP_eq, hitems, List.countP_append, List.countP_cons]
      have hzero : (tail.countP fun b => time a < time b) = 0 := by
        simpa [List.countP_eq_zero] using htail
      simp [hzero]
    have hle := List.countP_le_length (p := fun b => decide (time a < time b)) (l := init)
    omega
  · rw [before_add_same, ← h.countP_eq, hitems, List.countP_append, List.countP_cons]
    have hall : (init.countP fun b => time a ≤ time b) = init.length := by
      rw [List.countP_eq_length]
      intro b hb
      simpa using hinit b hb a List.mem_cons_self
    simp only [hall, le_refl, decide_true, if_true]
    omega

theorem drop_take_getLast? {m : Nat} {init tail : List α} {a : α} (hlimit : 0 < limit)
    (hitems : items = init ++ a :: tail) (hlength : init.length + 1 = m + limit) :
    ((items.drop m).take limit).getLast? = some a := by
  have hsplit : items.take (m + limit) = init ++ [a] := by
    rw [hitems, ← hlength, List.take_append, List.take_of_length_le (by omega)]
    simp
  have hdrop : (items.drop m).take limit = (items.take (m + limit)).drop m := by
    rw [List.drop_take, Nat.add_sub_cancel_left]
  rw [hdrop, hsplit, List.getLast?_drop, if_neg (by simp; omega), List.getLast?_concat]

theorem exists_split (items : List α) {m : Nat} (hpos : 0 < m) (hm : m ≤ items.length) :
    ∃ init a tail, items = init ++ a :: tail ∧ init.length + 1 = m := by
  obtain ⟨j, rfl⟩ : ∃ j, m = j + 1 := ⟨m - 1, by omega⟩
  refine ⟨items.take j, items[j], items.drop (j + 1), ?_, ?_⟩
  · rw [← List.drop_eq_getElem_cons, List.take_append_drop]
  · rw [List.length_take]
    omega

end Sorted

/-! ## Cursors that stand at the end of a page -/

section AtPage

variable (time : α → τ) (key : α → κ) (valid : α → Prop) [DecidablePred valid]
  {source items : List α} {limit : Nat}

/-- In every order, what comes after the cursor is all but the first `m` items: those of `p`. -/
def AtPage (source : List α) (c : Option α) (p : α → Bool) (m : Nat) : Prop :=
  ∀ items, Listing time source items →
    rest time key valid items c = items.filter p ∧ items.filter p = items.drop m

variable {time key valid}

theorem atPage_none : AtPage time key valid source none (fun _ => true) 0 :=
  fun items _ => by simp [rest]

theorem atPage_of_alone {a : α} (ha : a ∈ source) (halone : same time source a = 1)
    (hvalid : valid a) :
    AtPage time key valid source (some a) (fun b => time b < time a)
      (before time source a + 1) := by
  intro items h
  have hparts := filter_append_filter h.sorted (time a)
  have hlength : (items.filter fun b => time a ≤ time b).length = before time source a + 1 := by
    rw [← List.countP_eq_length_filter, h.countP_eq, ← halone, before_add_same]
  have honly : ∀ b ∈ items, time b = time a → b = a := by
    intro b hb htime
    have hfilter : (source.filter fun b => time b = time a).length = 1 := by
      rw [← List.countP_eq_length_filter]
      exact halone
    obtain ⟨x, hx⟩ := List.length_eq_one_iff.mp hfilter
    have hmem : ∀ y ∈ source, time y = time a → y = x := fun y hy hyt => by
      simpa [hx] using (List.mem_filter (p := fun b => decide (time b = time a))).mpr
        ⟨hy, by simpa using hyt⟩
    rw [hmem b (h.perm.mem_iff.mp hb) htime, hmem a ha rfl]
  refine ⟨?_, ?_⟩
  · rw [rest, if_pos hvalid]
    conv_lhs => rw [← hparts]
    rw [List.dropWhile_append_of_pos]
    · rw [List.dropWhile_eq_self_iff]
      intro hne
      have hmem := List.getElem_mem hne
      simp only [List.mem_filter, decide_eq_true_eq] at hmem
      have hlater : Later time key a _ := Or.inl hmem.2
      simpa using hlater
    · intro b hb
      simp only [List.mem_filter, decide_eq_true_eq] at hb
      have hnot : ¬ Later time key a b := by
        rintro (hlt | ⟨heq, hkey⟩)
        · exact absurd hb.2 (not_le.mpr hlt)
        · rw [honly b hb.1 heq] at hkey
          exact lt_irrefl _ hkey
      simpa using hnot
  · conv_rhs => rw [← hparts]
    rw [← hlength, List.drop_left]

theorem AtPage.next {k : Nat} {c : Option α} {p : α → Bool} (hlimit : 0 < limit)
    (hat : AtPage time key valid source c p (k * limit))
    (halone : ∀ a ∈ source, MayEnd time limit source (k + 1) a → same time source a = 1 ∧ valid a)
    (hmore : (k + 1) * limit < source.length) (h : Listing time source items) :
    ∃ last, (page time key valid limit items c).1.getLast? = some last ∧
      AtPage time key valid source (some last) (fun b => time b < time last)
        ((k + 1) * limit) := by
  have hmul : (k + 1) * limit = k * limit + limit := Nat.succ_mul k limit
  have hlength := h.perm.length_eq
  obtain ⟨init, a, tail, hitems, hinit⟩ :=
    exists_split items (m := (k + 1) * limit) (by omega) (by omega)
  have hend := mayEnd_of_take h (by omega : 0 < k + 1) hmore hitems hinit
  have hmem : a ∈ source := h.perm.mem_iff.mp (by simp [hitems])
  obtain ⟨hsame, hvalid⟩ := halone a hmem hend
  refine ⟨a, ?_, ?_⟩
  · rw [page, (hat items h).1, (hat items h).2]
    exact drop_take_getLast? hlimit hitems (by omega)
  · have hbefore : before time source a + 1 = (k + 1) * limit := by
      have h3 := hend.2.2.1
      have h4 := hend.2.2.2
      omega
    rw [← hbefore]
    exact atPage_of_alone hmem hsame hvalid

theorem follow_of_alone (hlimit : 0 < limit) (halone : PageEndsAlone time valid limit source)
    {listing : Nat → List α} (hlisting : ∀ n, Listing time source (listing n)) (d : Nat) :
    ∀ k c p n, AtPage time key valid source c p (k * limit) → source.length - k * limit ≤ d →
      ∃ found, follow (fun n => page time key valid limit (listing n)) (d + 1) n c = some found ∧
        found.Perm (source.filter p) := by
  induction d with
  | zero =>
    intro k c p n hat hd
    obtain ⟨hrest, hdrop⟩ := hat _ (hlisting n)
    have hlength := (hlisting n).perm.length_eq
    have hnil : rest time key valid (listing n) c = [] := by
      rw [hrest, hdrop, List.drop_eq_nil_iff]
      omega
    refine ⟨[], by simp [follow, page, hnil], ?_⟩
    rw [hrest] at hnil
    have hperm := (hlisting n).perm.filter p
    rwa [hnil] at hperm
  | succ d ih =>
    intro k c p n hat hd
    obtain ⟨hrest, hdrop⟩ := hat _ (hlisting n)
    have hlength := (hlisting n).perm.length_eq
    have hperm := (hlisting n).perm.filter p
    have hleft : (rest time key valid (listing n) c).length = source.length - k * limit := by
      rw [hrest, hdrop, List.length_drop, hlength]
    have hmul : (k + 1) * limit = k * limit + limit := Nat.succ_mul k limit
    by_cases hmore : (page time key valid limit (listing n) c).2 = true
    · have hlt : (k + 1) * limit < source.length := by
        simp only [page, hleft, decide_eq_true_eq] at hmore
        omega
      obtain ⟨last, hlast, hnext⟩ :=
        hat.next hlimit (fun a ha => halone a ha (k + 1)) hlt (hlisting n)
      obtain ⟨found, hfollow, hfound⟩ := ih (k + 1) _ _ (n + 1) hnext (by omega)
      refine ⟨(page time key valid limit (listing n) c).1 ++ found, ?_, ?_⟩
      · rw [follow, if_pos hmore, hlast]
        simp only [hfollow, Option.map_some]
      · -- what is found later is what this page leaves
        have hdropped : ((listing n).drop (k * limit)).drop limit =
            (listing n).filter fun b => time b < time last := by
          rw [List.drop_drop, ← hmul, (hnext _ (hlisting n)).2]
        have hfirst : (page time key valid limit (listing n) c).1 =
            ((listing n).drop (k * limit)).take limit := by
          rw [page, hrest, hdrop]
        calc (page time key valid limit (listing n) c).1 ++ found
            _ |>.Perm (((listing n).drop (k * limit)).take limit ++
                ((listing n).drop (k * limit)).drop limit) := by
              rw [hfirst, hdropped]
              exact (hfound.trans ((hlisting n).perm.filter _).symm).append_left _
            _ = (listing n).filter p := by rw [List.take_append_drop, ← hdrop]
            _ |>.Perm (source.filter p) := hperm
    · grind [page, follow, rest, List.take_of_length_le]

theorem listsAll_of_alone (hlimit : 0 < limit) (halone : PageEndsAlone time valid limit source) :
    ListsAll time key valid limit source := by
  intro listing hlisting
  have hstart : AtPage time key valid source none (fun _ => true) (0 * limit) := by
    simpa using atPage_none
  obtain ⟨found, hfollow, hfound⟩ := follow_of_alone hlimit halone hlisting source.length 0 none
    (fun _ => true) 0 hstart (by omega)
  exact ⟨_, found, hfollow, by simpa using hfound⟩

end AtPage

/-! ## Cursors that stand elsewhere -/

section Placed

variable {time : α → τ} {key : α → κ} {valid : α → Prop} [DecidablePred valid]
  {source items : List α} {limit : Nat}

/-- An order with `x` last of the first `m`: the items later in time, those of its time before it
and behind it, and the earlier ones. -/
structure Placed (time : α → τ) (source : List α) (x : α) (m : Nat) (later ahead behind earlier :
    List α) : Prop where
  listing : Listing time source (later ++ ahead ++ x :: (behind ++ earlier))
  later_lt : ∀ b ∈ later, time x < time b
  ahead_eq : ∀ b ∈ ahead, time b = time x
  behind_eq : ∀ b ∈ behind, time b = time x
  earlier_lt : ∀ b ∈ earlier, time b < time x
  length : later.length + ahead.length + 1 = m
  length_later : later.length = before time source x
  length_same : ahead.length + 1 + behind.length = same time source x

theorem filter_parts_perm (source : List α) (t : τ) :
    ((source.filter fun b => t < time b) ++ (source.filter fun b => time b = t) ++
      source.filter fun b => time b < t).Perm source := by
  refine List.Perm.trans ?_ (List.filter_append_perm (fun b => decide (t < time b)) source)
  rw [List.append_assoc]
  refine List.Perm.append_left _ ?_
  refine List.Perm.trans ?_ (List.filter_append_perm (fun b => decide (time b = t)) _)
  rw [List.filter_filter, List.filter_filter]
  refine List.Perm.of_eq (congrArg₂ _ ?_ ?_)
  · refine List.filter_congr fun b _ => ?_
    by_cases heq : time b = t <;> simp [heq]
  · grind

theorem exists_placed {x : α} {m : Nat} (hx : x ∈ source) (hbefore : before time source x < m)
    (hsame : m ≤ before time source x + same time source x) :
    ∃ later ahead behind earlier, Placed time source x m later ahead behind earlier := by
  classical
  let base := source.mergeSort fun a b => time b ≤ time a
  have hperm : base.Perm source := List.mergeSort_perm _ _
  have hbase : base.Pairwise fun a b => time b ≤ time a := by
    grind [List.pairwise_mergeSort, le_total]
  let group := (source.filter fun b => time b = time x).erase x
  have hgroup : (x :: group).Perm (source.filter fun b => time b = time x) :=
    (List.perm_cons_erase (by simpa using hx)).symm
  have hgroupLength : group.length + 1 = same time source x := by
    rw [same, List.countP_eq_length_filter, ← hgroup.length_eq, List.length_cons]
  have hgroupTime : ∀ b ∈ group, time b = time x := fun b hb => by
    simpa using (List.mem_filter.mp (List.mem_of_mem_erase hb)).2
  let later := base.filter fun b => time x < time b
  have hlaterLength : later.length = before time source x := by
    rw [before, List.countP_eq_length_filter]
    exact (hperm.filter _).length_eq
  let earlier := base.filter fun b => time b < time x
  have hlater : ∀ b ∈ later, time x < time b := fun b hb => by
    simpa using (List.mem_filter.mp hb).2
  have hearlier : ∀ b ∈ earlier, time b < time x := fun b hb => by
    simpa using (List.mem_filter.mp hb).2
  let n := m - before time source x - 1
  have hn : n ≤ group.length := by omega
  have hahead : ∀ b ∈ group.take n, time b = time x := fun b hb =>
    hgroupTime b (List.mem_of_mem_take hb)
  have hbehind : ∀ b ∈ group.drop n, time b = time x := fun b hb =>
    hgroupTime b (List.mem_of_mem_drop hb)
  refine ⟨later, group.take n, group.drop n, earlier, ⟨?_, ?_⟩, hlater, hahead, hbehind, hearlier,
    ?_, hlaterLength, ?_⟩
  · have hmiddle : (group.take n ++ x :: group.drop n).Perm
        (source.filter fun b => time b = time x) :=
      (List.perm_middle.trans (by rw [List.take_append_drop])).trans hgroup
    have hparts := (((hperm.filter _).append hmiddle).append (hperm.filter _)).trans
      (filter_parts_perm source (time x))
    simpa [List.append_assoc] using hparts
  · have hsortedLater := hbase.filter fun b => decide (time x < time b)
    have hsortedEarlier := hbase.filter fun b => decide (time b < time x)
    simp only [List.pairwise_append, List.pairwise_cons, List.mem_append, List.mem_cons]
    refine ⟨⟨hsortedLater, ?_, ?_⟩, ⟨?_, ?_, hsortedEarlier, ?_⟩, ?_⟩
    · exact List.pairwise_of_forall_mem_list fun a ha b hb => by rw [hahead a ha, hahead b hb]
    · exact fun a ha b hb => (hahead b hb).le.trans (hlater a ha).le
    · rintro b (hb | hb)
      · exact (hbehind b hb).le
      · exact (hearlier b hb).le
    · exact List.pairwise_of_forall_mem_list fun a ha b hb => by rw [hbehind a ha, hbehind b hb]
    · exact fun a ha b hb => ((hearlier b hb).trans_eq (hbehind a ha).symm).le
    · have hfirst : ∀ a, a ∈ later ∨ a ∈ group.take n → time x ≤ time a := by
        rintro a (ha | ha)
        · exact (hlater a ha).le
        · exact (hahead a ha).ge
      rintro a ha b (rfl | hb | hb)
      · exact hfirst a ha
      · exact (hbehind b hb).le.trans (hfirst a ha)
      · exact (hearlier b hb).le.trans (hfirst a ha)
  · rw [List.length_take, hlaterLength]
    omega
  · rw [List.length_take, List.length_drop, ← hgroupLength]
    omega

variable {x : α} {m : Nat} {later ahead behind earlier : List α}

theorem Placed.not_later (h : Placed time source x m later ahead behind earlier) :
    ∀ b ∈ later, ¬ Later time key x b := by
  rintro b hb (hlt | ⟨heq, -⟩)
  · exact absurd (h.later_lt b hb) (not_lt.mpr hlt.le)
  · exact (h.later_lt b hb).ne heq.symm

/-- What every call returns, when the source keeps one order. -/
abbrev fixedOrder (time : α → τ) (key : α → κ) (valid : α → Prop) [DecidablePred valid]
    (limit : Nat) (items : List α) : Nat → Option α → List α × Bool :=
  fun _ => page time key valid limit items

variable {fetch : Nat → Option α → List α × Bool}

theorem mem_found {fuel n : Nat} {c : Option α}
    {found : List α} (h : follow fetch fuel n c = some found) {b : α} (hb : b ∈ (fetch n c).1) :
    b ∈ found := by
  cases fuel with
  | zero => simp [follow] at h
  | succ fuel =>
    rw [follow] at h
    split at h
    · split at h
      · simp at h
      · obtain ⟨others, -, rfl⟩ := Option.map_eq_some_iff.mp h
        exact List.mem_append_left _ hb
    · cases h
      exact hb

theorem found_of_pages {p : α → Prop} (hpage : ∀ n c, ∀ b ∈ (fetch n c).1, p b) (fuel : Nat) :
    ∀ n c found, follow fetch fuel n c = some found → ∀ b ∈ found, p b := by
  induction fuel with
  | zero => simp [follow]
  | succ fuel ih =>
    intro n c found h
    rw [follow] at h
    split at h
    · split at h
      · simp at h
      · obtain ⟨others, hothers, rfl⟩ := Option.map_eq_some_iff.mp h
        exact fun b hb => (List.mem_append.mp hb).elim (hpage n c b) (ih _ _ others hothers b)
    · cases h
      exact hpage n c

theorem mem_of_mem_page {c : Option α} {b : α} (hb : b ∈ (page time key valid limit items c).1) :
    b ∈ items := by
  have hrest := List.mem_of_mem_take hb
  unfold rest at hrest
  split at hrest
  · exact hrest
  · split at hrest
    · exact (List.dropWhile_sublist _).subset hrest
    · exact hrest

variable {init tail : List α}

theorem follow_up_to {k : Nat} (hlimit : 0 < limit)
    (h : Listing time source items) (hitems : items = init ++ x :: tail)
    (hinit : init.length + 1 = k * limit) (hmore : k * limit < source.length)
    (halone : ∀ a ∈ source, ∀ j < k, MayEnd time limit source j a →
      same time source a = 1 ∧ valid a) (d : Nat) :
    ∀ j c p fuel n found, k = j + d + 1 → AtPage time key valid source c p (j * limit) →
      follow (fixedOrder time key valid limit items) fuel n c = some found →
      ∃ fuel n others, found = (items.drop (j * limit)).take ((d + 1) * limit) ++ others ∧
        follow (fixedOrder time key valid limit items) fuel n (some x) = some others := by
  have hlength := h.perm.length_eq
  induction d with
  | zero =>
    rintro j c p fuel n found rfl hat hfound
    obtain ⟨hrest, hdrop⟩ := hat items h
    have hmul : (j + 0 + 1) * limit = j * limit + limit := Nat.succ_mul j limit
    cases fuel with
    | zero => simp [follow] at hfound
    | succ fuel =>
      have hlast := drop_take_getLast? (m := j * limit) hlimit hitems (by omega)
      have hpage : (fixedOrder time key valid limit items n c).2 = true := by
        simp only [page, hrest, hdrop, List.length_drop, decide_eq_true_eq]
        omega
      rw [follow, if_pos hpage] at hfound
      simp only [page, hrest, hdrop, hlast] at hfound
      obtain ⟨others, hothers, rfl⟩ := Option.map_eq_some_iff.mp hfound
      exact ⟨fuel, n + 1, others, by rw [Nat.zero_add, Nat.one_mul], hothers⟩
  | succ d ih =>
    rintro j c p fuel n found rfl hat hfound
    obtain ⟨hrest, hdrop⟩ := hat items h
    have hmul : (j + 1) * limit = j * limit + limit := Nat.succ_mul j limit
    have hlt : (j + 1) * limit < source.length :=
      (Nat.mul_le_mul_right limit (by omega)).trans_lt hmore
    obtain ⟨last, hlast, hnext⟩ :=
      hat.next hlimit (fun a ha => halone a ha (j + 1) (by omega)) hlt h
    cases fuel with
    | zero => simp [follow] at hfound
    | succ fuel =>
      have hpage : (fixedOrder time key valid limit items n c).2 = true := by
        simp only [page, hrest, hdrop, List.length_drop, decide_eq_true_eq]
        omega
      rw [follow, if_pos hpage] at hfound
      simp only [fixedOrder, hlast] at hfound
      obtain ⟨others, hothers, rfl⟩ := Option.map_eq_some_iff.mp hfound
      obtain ⟨fuel', n', others', rfl, hothers'⟩ :=
        ih (j + 1) _ _ fuel (n + 1) others (by omega) hnext hothers
      refine ⟨fuel', n', others', ?_, hothers'⟩
      have hmul' : (d + 1 + 1) * limit = limit + (d + 1) * limit := by
        rw [Nat.succ_mul, Nat.add_comm]
      rw [page, hrest, hdrop, hmul', hmul, List.take_add, List.drop_drop, List.append_assoc]

theorem exists_found {k : Nat} (hlimit : 0 < limit) (hk : 0 < k)
    (hall : ListsAll time key valid limit source) (h : Listing time source items)
    (hitems : items = init ++ x :: tail) (hinit : init.length + 1 = k * limit)
    (hmore : k * limit < source.length)
    (halone : ∀ a ∈ source, ∀ j < k, MayEnd time limit source j a →
      same time source a = 1 ∧ valid a) :
    ∃ fuel n found, follow (fixedOrder time key valid limit items) fuel n (some x) = some found ∧
      found.Perm tail := by
  obtain ⟨fuel, found, hfollow, hfound⟩ := hall (fun _ => items) (fun _ => h)
  obtain ⟨d, rfl⟩ : ∃ d, k = 0 + d + 1 := ⟨k - 1, by omega⟩
  obtain ⟨fuel', n', others, rfl, hothers⟩ := follow_up_to hlimit h hitems hinit hmore halone d 0
    none _ fuel 0 found rfl (by simpa using atPage_none) hfollow
  refine ⟨fuel', n', others, hothers, ?_⟩
  have hitems' : items = init ++ [x] ++ tail := by rw [hitems, List.append_cons]
  have hfirst : (items.drop (0 * limit)).take ((d + 1) * limit) = init ++ [x] := by
    rw [Nat.zero_mul, List.drop_zero, hitems', ← Nat.zero_add (d + 1), ← Nat.add_assoc, ← hinit]
    exact List.take_left' (by simp)
  have hperm := hfound.trans h.perm.symm
  rw [hfirst, hitems'] at hperm
  exact (List.perm_append_left_iff _).mp hperm

theorem rest_not_repeated (hlimit : 0 < limit) (hnodup : items.Nodup)
    (hitems : items = init ++ x :: tail) {fuel n : Nat} {found : List α}
    (hfollow : follow (fixedOrder time key valid limit items) fuel n (some x) = some found)
    (hfound : found.Perm tail) {y : α} {others : List α}
    (hrest : rest time key valid items (some x) = y :: others) (hy : y ∈ init ++ [x]) : False := by
  have hpage : y ∈ (fixedOrder time key valid limit items n (some x)).1 := by
    obtain ⟨l, rfl⟩ : ∃ l, limit = l + 1 := ⟨limit - 1, by omega⟩
    simp [page, hrest]
  have htail : y ∈ tail := hfound.mem_iff.mp (mem_found hfollow hpage)
  rw [hitems, List.append_cons] at hnodup
  exact List.disjoint_of_nodup_append hnodup hy htail

/-- From a cursor with only earlier items behind it, either the pages start again, or all that is
found is earlier. -/
theorem head_or_earlier {first : α} {others : List α} {t : τ} (hlimit : 0 < limit)
    (hitems : items = first :: others) (hsorted : items.Pairwise fun a b => time b ≤ time a)
    (fuel : Nat) :
    ∀ n c found, (∀ b ∈ rest time key valid items c, time b < t) →
      follow (fixedOrder time key valid limit items) fuel n c = some found →
      first ∈ found ∨ ∀ b ∈ found, time b < t := by
  induction fuel with
  | zero => simp [follow]
  | succ fuel ih =>
    intro n c found hrest hfollow
    have hpage : ∀ b ∈ (fixedOrder time key valid limit items n c).1, time b < t :=
      fun b hb => hrest b (List.mem_of_mem_take hb)
    rw [follow] at hfollow
    split at hfollow
    · split at hfollow
      · simp at hfollow
      · next last hlast =>
        obtain ⟨found', hfollow', rfl⟩ := Option.map_eq_some_iff.mp hfollow
        by_cases hvalid : valid last
        · have hnext : ∀ b ∈ rest time key valid items (some last), time b < t := by
            have hlt := hpage last (List.mem_of_getLast? hlast)
            rw [rest, if_pos hvalid]
            intro b hb
            have hdropped :=
              hsorted.sublist (List.dropWhile_sublist fun a => ¬ Later time key last a)
            obtain ⟨y, ys, hys⟩ := List.exists_cons_of_ne_nil (List.ne_nil_of_mem hb)
            have hlater : Later time key last y := by
              have h := List.head?_dropWhile_not (fun a => ¬ Later time key last a) items
              rw [hys] at h
              simpa using h
            have hy : time y < t :=
              (hlater.elim le_of_lt fun heq => heq.1.le).trans_lt hlt
            rw [hys] at hb hdropped
            obtain rfl | hb := List.mem_cons.mp hb
            · exact hy
            · exact ((List.pairwise_cons.mp hdropped).1 b hb).trans_lt hy
          obtain hfirst | hearlier := ih (n + 1) _ _ hnext hfollow'
          · exact Or.inl (List.mem_append_right _ hfirst)
          · exact Or.inr fun b hb => (List.mem_append.mp hb).elim (hpage b) (hearlier b)
        · -- no cursor: the next page is the first one again
          refine Or.inl (List.mem_append_right _ (mem_found hfollow' ?_))
          obtain ⟨l, rfl⟩ : ∃ l, limit = l + 1 := ⟨limit - 1, by omega⟩
          simp [page, rest, hvalid, hitems]
    · cases hfollow
      exact Or.inr hpage

end Placed

section Law

variable {time : α → τ} {key : α → κ} {valid : α → Prop} [DecidablePred valid] {source : List α}
  {limit : Nat}

variable {k : Nat}

theorem MayEnd.congr {a b : α} (h : MayEnd time limit source k a)
    (htime : time b = time a) : MayEnd time limit source k b := by
  unfold MayEnd before same at *
  rwa [htime]

theorem valid_of_listsAll {x : α} (hlimit : 0 < limit) (hnodup : source.Nodup)
    (hall : ListsAll time key valid limit source) (hx : x ∈ source)
    (hend : MayEnd time limit source k x)
    (halone : ∀ a ∈ source, ∀ j < k, MayEnd time limit source j a →
      same time source a = 1 ∧ valid a) : valid x := by
  by_contra hvalid
  obtain ⟨hk, hmore, hbefore, hsame⟩ := hend
  obtain ⟨later, ahead, behind, earlier, h⟩ := exists_placed hx hbefore hsame
  obtain ⟨fuel, n, found, hfollow, hfound⟩ := exists_found hlimit hk hall h.listing rfl
    (by simpa using h.length) hmore halone
  obtain ⟨y, ys, hys⟩ : ∃ y ys, later ++ ahead ++ [x] = y :: ys :=
    List.exists_cons_of_ne_nil (by simp)
  suffices hrest : rest time key valid (later ++ ahead ++ x :: (behind ++ earlier)) (some x) =
      y :: (ys ++ (behind ++ earlier)) from
    rest_not_repeated hlimit (h.listing.perm.nodup_iff.mpr hnodup) rfl hfollow hfound hrest
      (by simp [hys])
  rw [rest, if_neg hvalid, List.append_cons, hys, List.cons_append]

theorem Placed.absurd_of_least {x : α} {later behind earlier : List α}
    (hlimit : 0 < limit) (hk : 0 < k) (hnodup : source.Nodup)
    (hall : ListsAll time key valid limit source)
    (hmore : k * limit < source.length)
    (halone : ∀ a ∈ source, ∀ j < k, MayEnd time limit source j a →
      same time source a = 1 ∧ valid a)
    (h : Placed time source x (k * limit) later [] behind earlier) (hvalid : valid x)
    (hleast : ∀ b ∈ source, time b = time x → key x ≤ key b) : behind = [] := by
  by_contra hbehind
  obtain ⟨z, zs, rfl⟩ := List.exists_cons_of_ne_nil hbehind
  obtain ⟨fuel, n, found, hfollow, hfound⟩ := exists_found hlimit hk hall h.listing rfl
    (by simpa using h.length) hmore halone
  have hnot : ∀ b ∈ later ++ [] ++ x :: z :: zs, ¬ Later time key x b := by
    intro b hb
    rw [List.append_nil, List.mem_append] at hb
    obtain hb | hb := hb
    · exact h.not_later b hb
    · have htime : time b = time x := (List.mem_cons.mp hb).elim (congrArg time) (h.behind_eq b)
      have hmem : b ∈ source := h.listing.perm.mem_iff.mp (by
        simp only [List.append_nil, List.mem_append, List.mem_cons] at hb ⊢
        tauto)
      rintro (hlt | ⟨-, hkey⟩)
      · exact hlt.ne htime
      · exact absurd (hleast b hmem htime) (not_le.mpr hkey)
  have hrest : ∀ b ∈ rest time key valid (later ++ [] ++ x :: (z :: zs ++ earlier)) (some x),
      time b < time x := by
    rw [rest, if_pos hvalid, ← List.cons_append, ← List.append_assoc,
      List.dropWhile_append_of_pos (by simpa using hnot)]
    exact fun b hb => h.earlier_lt b ((List.dropWhile_sublist _).subset hb)
  obtain ⟨first, others, hfirst⟩ : ∃ first others,
      later ++ [] ++ x :: (z :: zs ++ earlier) = first :: others :=
    List.exists_cons_of_ne_nil (by simp)
  obtain hmem | hearlier :=
    head_or_earlier hlimit hfirst h.listing.sorted fuel n _ found hrest hfollow
  · have hnodup' := h.listing.perm.nodup_iff.mpr hnodup
    rw [List.append_cons] at hnodup'
    refine List.disjoint_of_nodup_append hnodup' ?_ (hfound.mem_iff.mp hmem)
    cases later <;> simp_all
  · exact (hearlier z (hfound.mem_iff.mpr (by simp))).ne (h.behind_eq z (by simp))

theorem Placed.absurd_of_greatest {x : α} {later ahead behind earlier : List α}
    (hlimit : 0 < limit) (hk : 0 < k) (hnodup : source.Nodup)
    (hkeys : ∀ b ∈ source, ∀ c ∈ source, key b = key c → b = c)
    (hall : ListsAll time key valid limit source) (hmore : k * limit < source.length)
    (halone : ∀ a ∈ source, ∀ j < k, MayEnd time limit source j a →
      same time source a = 1 ∧ valid a)
    (h : Placed time source x (k * limit) later ahead behind earlier) (hvalid : valid x)
    (hgreatest : ∀ b ∈ source, time b = time x → key b ≤ key x) : ahead = [] := by
  by_contra hahead
  obtain ⟨y, ys, rfl⟩ := List.exists_cons_of_ne_nil hahead
  obtain ⟨fuel, n, found, hfollow, hfound⟩ := exists_found hlimit hk hall h.listing rfl
    (by simpa using h.length) hmore halone
  have hnodup' := h.listing.perm.nodup_iff.mpr hnodup
  have hmem : ∀ b ∈ later ++ y :: ys ++ x :: (behind ++ earlier), b ∈ source :=
    fun b => h.listing.perm.mem_iff.mp
  have hne : y ≠ x := by
    rintro rfl
    simp [List.nodup_append] at hnodup'
  have hlater : Later time key x y := by
    have htime : time y = time x := h.ahead_eq y (by simp)
    refine Or.inr ⟨htime, lt_of_le_of_ne (hgreatest y (hmem y (by simp)) htime) fun hkey => ?_⟩
    exact hne (hkeys y (hmem y (by simp)) x (hmem x (by simp)) hkey)
  suffices hrest : rest time key valid (later ++ y :: ys ++ x :: (behind ++ earlier)) (some x) =
      y :: (ys ++ x :: (behind ++ earlier)) from
    rest_not_repeated hlimit hnodup' rfl hfollow hfound hrest (by simp)
  rw [rest, if_pos hvalid, List.append_assoc,
    List.dropWhile_append_of_pos (by simpa using h.not_later), List.cons_append,
    List.dropWhile_cons_of_neg (by simpa using hlater)]

theorem alone_of_first {a : α} (hlimit : 0 < limit) (hnodup : source.Nodup)
    (hkeys : ∀ b ∈ source, ∀ c ∈ source, key b = key c → b = c)
    (hall : ListsAll time key valid limit source) (ha : a ∈ source)
    (hend : MayEnd time limit source k a)
    (halone : ∀ a ∈ source, ∀ j < k, MayEnd time limit source j a →
      same time source a = 1 ∧ valid a) : same time source a = 1 := by
  have hfinite : {b | b ∈ source ∧ time b = time a}.Finite :=
    (List.finite_toSet source).subset fun b hb => hb.1
  by_cases hfirst : before time source a + 1 = k * limit
  · obtain ⟨x, ⟨hx, htime⟩, hleast⟩ := Set.exists_min_image _ key hfinite ⟨a, ha, rfl⟩
    have hendx := hend.congr htime
    have ⟨hk, hmore, hbefore, hsame⟩ := hendx
    obtain ⟨later, ahead, behind, earlier, h⟩ := exists_placed hx hbefore hsame
    have hvalid := valid_of_listsAll hlimit hnodup hall hx hendx halone
    have hbefore' : before time source x = before time source a := by rw [before, before, htime]
    have hsame' : same time source x = same time source a := by rw [same, same, htime]
    have hlength := h.length
    have hlater := h.length_later
    obtain rfl : ahead = [] := List.eq_nil_of_length_eq_zero (by omega)
    have hbehind := h.absurd_of_least hlimit hk hnodup hall hmore halone hvalid
      fun b hb hbt => hleast b ⟨hb, hbt.trans htime⟩
    rw [← hsame', ← h.length_same, hbehind]
    rfl
  · obtain ⟨x, ⟨hx, htime⟩, hgreatest⟩ := Set.exists_max_image _ key hfinite ⟨a, ha, rfl⟩
    have hendx := hend.congr htime
    have ⟨hk, hmore, hbefore, hsame⟩ := hendx
    obtain ⟨later, ahead, behind, earlier, h⟩ := exists_placed hx hbefore hsame
    have hvalid := valid_of_listsAll hlimit hnodup hall hx hendx halone
    have hbefore' : before time source x = before time source a := by rw [before, before, htime]
    have hlength := h.length
    have hlater := h.length_later
    have hahead := h.absurd_of_greatest hlimit hk hnodup hkeys hall hmore halone hvalid
      fun b hb hbt => hgreatest b ⟨hb, hbt.trans htime⟩
    rw [hahead, List.length_nil] at hlength
    omega

theorem alone_of_listsAll (hlimit : 0 < limit) (hnodup : source.Nodup)
    (hkeys : ∀ b ∈ source, ∀ c ∈ source, key b = key c → b = c)
    (hall : ListsAll time key valid limit source) (k : Nat) :
    ∀ a ∈ source, MayEnd time limit source k a → same time source a = 1 ∧ valid a := by
  induction k using Nat.strong_induction_on with
  | _ k ih =>
    intro a ha hend
    have halone : ∀ a ∈ source, ∀ j < k, MayEnd time limit source j a →
        same time source a = 1 ∧ valid a := fun a ha j hj => ih j hj a ha
    exact ⟨alone_of_first hlimit hnodup hkeys hall ha hend halone,
      valid_of_listsAll hlimit hnodup hall ha hend halone⟩

/-- **The law**, exactly: all pages together have each item once, whatever the orders, when every
page but the last ends with an item that is alone at its time and that a cursor can stand for. -/
theorem listsAll_iff (hlimit : 0 < limit) (hnodup : source.Nodup)
    (hkeys : ∀ b ∈ source, ∀ c ∈ source, key b = key c → b = c) :
    ListsAll time key valid limit source ↔ PageEndsAlone time valid limit source :=
  ⟨fun hall a ha k => alone_of_listsAll hlimit hnodup hkeys hall k a ha,
    listsAll_of_alone hlimit⟩

end Law

end Rhythm.Paging
