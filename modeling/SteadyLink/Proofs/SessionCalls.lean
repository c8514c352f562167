import SteadyLink.Proofs.Turns

/-!
# Calls on sessions

What can happen to a session, and the order in which it may. `Standing.after` is the order of the
calls on one session, which `Lived` spells out, and `owned` says that only one session is held at a
time.
-/

namespace SteadyLink.Proofs

/-- What happens to a session. -/
inductive Dealing where
  | opened
  | sendBegun
  | sent
  | sendFailed
  /-- A frame is waited for. The wait is abandoned when anything else is done. -/
  | receiveBegun
  | received
  | receiveFailed
  | closeBegun
  | closeEnded
  | dropped
  deriving DecidableEq

/-- What a supervisor has to do with its transport. -/
inductive Deal where
  /-- A session is called for. -/
  | connect
  | on (session : Nat) (d : Dealing)
  deriving DecidableEq

/-- Where a session stands. -/
inductive Standing where
  | unopened
  | ready
  | sending
  | receiving
  /-- A call has failed. -/
  | failed
  | closing
  | closed
  | dropped
  /-- Dropped in good order, without being closed. -/
  | abandoned
  deriving DecidableEq

/-- The order of the calls on a session. A failed call ends all use of it, and so does the beginning
of its shutdown. -/
def Standing.after : Standing → Dealing → Option Standing
  | unopened, .opened => some ready
  | ready, .sendBegun => some sending
  | sending, .sent => some ready
  | sending, .sendFailed => some failed
  | ready, .receiveBegun => some receiving
  | receiving, .receiveBegun => some receiving
  | receiving, .received => some ready
  | receiving, .receiveFailed => some failed
  | receiving, .sendBegun => some sending
  | receiving, .closeBegun => some closing
  | ready, .closeBegun => some closing
  | closing, .closeEnded => some closed
  | failed, .dropped => some dropped
  | closing, .dropped => some dropped
  | closed, .dropped => some dropped
  | ready, .dropped => some abandoned
  | receiving, .dropped => some abandoned
  | _, _ => none

/-- The session held after a deal, if the deal is about the one that is held before it. -/
def owned : Option Nat → Deal → Option (Option Nat)
  | none, .connect => some none
  | none, .on session .opened => some (some session)
  | some _, .on _ .opened => none
  | some session, .on other .dropped => if other = session then some none else none
  | some session, .on other _ => if other = session then some (some session) else none
  | _, _ => none

def life (session : Nat) (log : List Deal) : List Dealing :=
  log.filterMap fun deal =>
    match deal with
    | .connect => none
    | .on other d => if other = session then some d else none

/-- A call to send or to receive that has not failed. -/
def IsUse (d : Dealing) : Prop :=
  d = .sendBegun ∨ d = .sent ∨ d = .receiveBegun ∨ d = .received

/-- What has come after the use of a session, by where it stands. -/
inductive Ended : Standing → List Dealing → Prop
  | ready : Ended .ready []
  | sending : Ended .sending []
  | receiving : Ended .receiving []
  | sendFailed : Ended .failed [.sendFailed]
  | receiveFailed : Ended .failed [.receiveFailed]
  | closing : Ended .closing [.closeBegun]
  | closed : Ended .closed [.closeBegun, .closeEnded]
  | dropped {st : Standing} {ending : List Dealing} (ended : Ended st ending)
      (last : st = .failed ∨ st = .closing ∨ st = .closed) :
    Ended .dropped (ending ++ [.dropped])
  | abandoned : Ended .abandoned [.dropped]

/-- A session is opened, used, and then comes to its end. -/
inductive Lived : List Dealing → Standing → Prop
  | unopened : Lived [] .unopened
  | opened (uses ending : List Dealing) {st : Standing} (used : ∀ d ∈ uses, IsUse d)
      (ended : Ended st ending) : Lived (.opened :: (uses ++ ending)) st

section Lives

variable {ds uses : List Dealing} {st st' : Standing} {d : Dealing}

lemma lived_use (used : ∀ d ∈ uses, IsUse d) (hd : IsUse d) (ended : Ended st []) :
    Lived (.opened :: (uses ++ [d])) st := by
  have h := Lived.opened (uses ++ [d]) [] ?_ ended
  · rwa [List.append_nil] at h
  · intro d' hd'
    rcases List.mem_append.mp hd' with hd' | hd'
    · exact used d' hd'
    · rw [List.mem_singleton.mp hd']
      exact hd

lemma lived_after (h : Lived ds st) (hd : st.after d = some st') : Lived (ds ++ [d]) st' := by
  have ends (uses ending : List Dealing) (used : ∀ d ∈ uses, IsUse d)
      (ended : Ended st' (ending ++ [d])) : Lived (.opened :: (uses ++ ending) ++ [d]) st' := by
    rw [List.cons_append, List.append_assoc]
    exact Lived.opened uses _ used ended
  cases h with
  | unopened =>
    cases d with
    | opened =>
      obtain rfl := Option.some.inj hd
      exact Lived.opened [] [] nofun Ended.ready
    | _ => cases hd
  | opened uses ending used ended =>
    cases ended with
    | ready =>
      rw [List.append_nil]
      cases d with
      | sendBegun =>
        obtain rfl := Option.some.inj hd
        exact lived_use used (by simp [IsUse]) Ended.sending
      | receiveBegun =>
        obtain rfl := Option.some.inj hd
        exact lived_use used (by simp [IsUse]) Ended.receiving
      | closeBegun =>
        obtain rfl := Option.some.inj hd
        exact Lived.opened uses [.closeBegun] used Ended.closing
      | dropped =>
        obtain rfl := Option.some.inj hd
        exact Lived.opened uses [.dropped] used Ended.abandoned
      | _ => cases hd
    | sending =>
      rw [List.append_nil]
      cases d with
      | sent =>
        obtain rfl := Option.some.inj hd
        exact lived_use used (by simp [IsUse]) Ended.ready
      | sendFailed =>
        obtain rfl := Option.some.inj hd
        exact Lived.opened uses [.sendFailed] used Ended.sendFailed
      | _ => cases hd
    | receiving =>
      rw [List.append_nil]
      cases d with
      | sendBegun =>
        obtain rfl := Option.some.inj hd
        exact lived_use used (by simp [IsUse]) Ended.sending
      | receiveBegun =>
        obtain rfl := Option.some.inj hd
        exact lived_use used (by simp [IsUse]) Ended.receiving
      | received =>
        obtain rfl := Option.some.inj hd
        exact lived_use used (by simp [IsUse]) Ended.ready
      | receiveFailed =>
        obtain rfl := Option.some.inj hd
        exact Lived.opened uses [.receiveFailed] used Ended.receiveFailed
      | closeBegun =>
        obtain rfl := Option.some.inj hd
        exact Lived.opened uses [.closeBegun] used Ended.closing
      | dropped =>
        obtain rfl := Option.some.inj hd
        exact Lived.opened uses [.dropped] used Ended.abandoned
      | _ => cases hd
    | sendFailed =>
      cases d with
      | dropped =>
        obtain rfl := Option.some.inj hd
        exact ends uses _ used (Ended.dropped Ended.sendFailed (Or.inl rfl))
      | _ => cases hd
    | receiveFailed =>
      cases d with
      | dropped =>
        obtain rfl := Option.some.inj hd
        exact ends uses _ used (Ended.dropped Ended.receiveFailed (Or.inl rfl))
      | _ => cases hd
    | closing =>
      cases d with
      | closeEnded =>
        obtain rfl := Option.some.inj hd
        exact ends uses _ used Ended.closed
      | dropped =>
        obtain rfl := Option.some.inj hd
        exact ends uses _ used (Ended.dropped Ended.closing (Or.inr (Or.inl rfl)))
      | _ => cases hd
    | closed =>
      cases d with
      | dropped =>
        obtain rfl := Option.some.inj hd
        exact ends uses _ used (Ended.dropped Ended.closed (Or.inr (Or.inr rfl)))
      | _ => cases hd
    | dropped => cases d <;> cases hd
    | abandoned => cases d <;> cases hd

lemma lived_goes_on {more : List Dealing} (h : Lived ds st)
    (hmore : more.foldlM Standing.after st = some st') : Lived (ds ++ more) st' := by
  induction more generalizing ds st with
  | nil =>
    obtain rfl := Option.some.inj hmore
    rwa [List.append_nil]
  | cons d more ih =>
    rw [List.foldlM_cons, Option.bind_eq_bind, Option.bind_eq_some_iff] at hmore
    obtain ⟨mid, hd, hmore⟩ := hmore
    rw [List.append_cons]
    exact ih (lived_after h hd) hmore

theorem lived_of_inOrder (h : ds.foldlM Standing.after .unopened = some st) : Lived ds st :=
  lived_goes_on Lived.unopened h

end Lives

/-- What comes after the use of a session. -/
def IsEnding (d : Dealing) : Prop := d ≠ .opened ∧ ¬ IsUse d

/-- The use of the session has come to its end. -/
def IsOver (st : Standing) : Prop :=
  st = .failed ∨ st = .closing ∨ st = .closed ∨ st = .dropped ∨ st = .abandoned

section Endings

variable {ds ds' : List Dealing} {st st' : Standing} {d : Dealing}

lemma over_after (h : IsOver st) (hd : st.after d = some st') : IsEnding d ∧ IsOver st' := by
  rcases h with rfl | rfl | rfl | rfl | rfl <;> cases d <;> cases hd <;>
    simp [IsEnding, IsUse, IsOver]

lemma ending_after (h : IsEnding d) (hd : st.after d = some st') : IsOver st' := by
  cases d <;> cases st <;> cases hd <;> simp_all [IsEnding, IsUse, IsOver]

lemma over_goes_on (h : IsOver st) (hds : ds.foldlM Standing.after st = some st') :
    ∀ d ∈ ds, IsEnding d := by
  induction ds generalizing st with
  | nil => exact nofun
  | cons d ds ih =>
    rw [List.foldlM_cons, Option.bind_eq_bind, Option.bind_eq_some_iff] at hds
    obtain ⟨mid, hd, hrest⟩ := hds
    obtain ⟨hending, hmid⟩ := over_after h hd
    exact List.forall_mem_cons.mpr ⟨hending, ih hmid hrest⟩

/-- Once the use of a session has ended, it is not used again. -/
theorem ending_lasts (h : IsEnding d) (hd : d ∈ ds)
    (hall : (ds ++ ds').foldlM Standing.after st = some st') : ∀ d' ∈ ds', IsEnding d' := by
  obtain ⟨pre, post, rfl⟩ := List.append_of_mem hd
  rw [List.append_assoc, List.cons_append, List.foldlM_append, Option.bind_eq_bind,
    Option.bind_eq_some_iff] at hall
  obtain ⟨mid, -, hall⟩ := hall
  rw [List.foldlM_cons, Option.bind_eq_bind, Option.bind_eq_some_iff] at hall
  obtain ⟨last, hlast, hall⟩ := hall
  have hrest := over_goes_on (ending_after h hlast) hall
  exact fun d' hd' => hrest d' (List.mem_append_right post hd')

end Endings

/-- The sessions that were opened and not dropped, after one deal. -/
def aliveAfter (live : List Nat) : Deal → List Nat
  | .on session .opened => session :: live
  | .on session .dropped => live.erase session
  | _ => live

def alive (log : List Deal) : List Nat := log.foldl aliveAfter []

section Logs

variable {log pre post : List Deal} {owner owner' : Option Nat} {session k : Nat}

lemma owned_alive {deal : Deal} (h : owned owner deal = some owner') :
    aliveAfter owner.toList deal = owner'.toList := by
  cases owner with
  | none =>
    cases deal with
    | connect =>
      obtain rfl := Option.some.inj h
      rfl
    | on session d =>
      cases d with
      | opened =>
        obtain rfl := Option.some.inj h
        rfl
      | _ => cases h
  | some held =>
    cases deal with
    | connect => cases h
    | on other d =>
      cases d with
      | opened => cases h
      | dropped =>
        by_cases heq : other = held
        · simp only [owned, if_pos heq, Option.some.injEq] at h
          simp [aliveAfter, ← h, heq]
        · simp [owned, if_neg heq] at h
      | _ =>
        by_cases heq : other = held
        · simp only [owned, if_pos heq, Option.some.injEq] at h
          simp [aliveAfter, ← h]
        · simp [owned, if_neg heq] at h

lemma ownedAll_alive (h : log.foldlM owned owner = some owner') :
    log.foldl aliveAfter owner.toList = owner'.toList := by
  induction log generalizing owner with
  | nil =>
    obtain rfl := Option.some.inj h
    rfl
  | cons deal log ih =>
    rw [List.foldlM_cons, Option.bind_eq_bind, Option.bind_eq_some_iff] at h
    obtain ⟨next, hnext, hrest⟩ := h
    rw [List.foldl_cons, owned_alive hnext]
    exact ih hrest

lemma foldlM_split {α β : Type} {f : β → α → Option β} {b b' : β} {xs ys : List α}
    (h : (xs ++ ys).foldlM f b = some b') :
    ∃ mid, xs.foldlM f b = some mid ∧ ys.foldlM f mid = some b' := by
  rw [List.foldlM_append, Option.bind_eq_bind, Option.bind_eq_some_iff] at h
  exact h

lemma foldlM_join {α β : Type} {f : β → α → Option β} {b mid b' : β} {xs ys : List α}
    (h : xs.foldlM f b = some mid) (h' : ys.foldlM f mid = some b') :
    (xs ++ ys).foldlM f b = some b' := by
  rw [List.foldlM_append, h]
  exact h'

lemma owned_single (h : (pre ++ post).foldlM owned none = some owner) :
    (alive pre).length ≤ 1 := by
  obtain ⟨mid, hpre, -⟩ := foldlM_split h
  have ha : alive pre = mid.toList := ownedAll_alive hpre
  rw [ha]
  cases mid with
  | none => exact Nat.zero_le 1
  | some held => exact Nat.le_refl 1

lemma owned_connect (h : (pre ++ .connect :: post).foldlM owned none = some owner) :
    alive pre = [] := by
  obtain ⟨mid, hpre, hpost⟩ := foldlM_split h
  have ha : alive pre = mid.toList := ownedAll_alive hpre
  cases mid with
  | none => exact ha
  | some held => cases hpost

lemma life_append (log log' : List Deal) : life k (log ++ log') = life k log ++ life k log' :=
  List.filterMap_append

lemma life_same (ds : List Dealing) : life session (ds.map (.on session)) = ds := by
  unfold life
  rw [List.filterMap_map]
  exact (congrArg (List.filterMap · ds) (funext fun _ => if_pos rfl)).trans List.filterMap_some

lemma life_other (ds : List Dealing) (hk : k ≠ session) : life k (ds.map (.on session)) = [] := by
  unfold life
  rw [List.filterMap_map, List.filterMap_eq_nil_iff]
  intro d _
  exact if_neg (Ne.symm hk)

end Logs

end SteadyLink.Proofs
