import Mathlib.Data.List.Infix
import SteadyLink.Proofs.ListenerRuns

/-!
# Hooks

A hook along a journey. As long as its task runs, whatever is published for it is waiting for it or has
been passed to its callback, unless it lags. The task ends only when its end was asked for and it had
found nothing when it looked last; what came after that look is lost. From then on the callback is not
called.
-/

namespace SteadyLink.Proofs

/-- What an event has for a hook: transitions for one without a receiver, faults for one that reads the
bus. -/
def wants : Option Nat → Event → Option Notice
  | none, e => (transition? e).map fun t => .transition t.1 t.2
  | some _, e => e.fault.map .fault

/-- What waits for a hook. -/
def awaiting (s : Client) (h : Hook) : List Notice :=
  match h.source with
  | .transitions queue => queue.map fun t => .transition t.1 t.2
  | .faults receiver =>
    match s.hub.bus.receivers.get? receiver with
    | some r => r.pending.filterMap (wants (some receiver))
    | none => []

/-- How many events a hook has lost since it was told so last. -/
def lag (s : Client) (h : Hook) : Nat :=
  match h.source with
  | .transitions _ => 0
  | .faults receiver => ((s.hub.bus.receivers.get? receiver).map Receiver.missed).getD 0

/-- How often a hook can run before it finds nothing. -/
def load (s : Client) (h : Hook) : Nat :=
  match h.source with
  | .transitions queue => queue.length
  | .faults receiver =>
    match s.hub.bus.receivers.get? receiver with
    | some r => r.pending.length + r.missed
    | none => 0

/-- What a step of its task does to a hook. -/
inductive HookPass (s : Client) (i : Nat) (s' : Client) (h h' : Hook) : Prop
  | called (n : Notice) (reading : h.pass = .reading) (still : h'.running = true)
      (goesOn : h'.pass = .reading) (told : noticed s'.hub i = noticed s.hub i ++ [n])
      (next : awaiting s h = n :: awaiting s' h') (less : load s' h' < load s h)
  | skips (reading : h.pass = .reading) (still : h'.running = true) (goesOn : h'.pass = .reading)
      (silent : noticed s'.hub i = noticed s.hub i) (same : awaiting s' h' = awaiting s h)
      (less : load s' h' < load s h)
  | finds (reading : h.pass = .reading) (still : h'.running = true) (checking : h'.pass = .checking)
      (silent : noticed s'.hub i = noticed s.hub i) (nothing : FindsNothing s h)
      (idle : awaiting s h = []) (same : awaiting s' h' = awaiting s h)
  /-- The task does not end yet, and waits or looks again. -/
  | turns (away : h.pass ≠ .reading) (still : h'.running = true) (apart : h'.pass ≠ .checking)
      (silent : noticed s'.hub i = noticed s.hub i) (same : awaiting s' h' = awaiting s h)
      (goesOn : h.pass = .waiting → h'.pass = .reading)
      (kept : h.pass = .checking → h.removed = false ∧ s.shutdown = false)
  | ends (checking : h.pass = .checking) (stopped : h'.running = false)
      (cause : h.removed = true ∨ s.shutdown = true) (silent : noticed s'.hub i = noticed s.hub i)

/-- What a step is for a hook. -/
inductive HookStep (s : Client) (i : Nat) (choice : Choice) (es : List Event) (s' : Client)
    (h h' : Hook) : Prop
  /-- Somebody else takes the step. -/
  | hears (other : runner? choice ≠ some i) (silent : noticed s'.hub i = noticed s.hub i)
      (same : h'.running = h.running) (pass : h'.pass = h.pass)
      (removal : h'.removed = (h.removed || removed? choice = some i))
      (suffix : h.running = true →
        awaiting s' h' <:+ awaiting s h ++ es.filterMap (wants (receiverOf? h)))
      (whole : h.running = true → lag s h = 0 → lag s' h' = 0 →
        awaiting s' h' = awaiting s h ++ es.filterMap (wants (receiverOf? h)))
  | runs (own : choice = .work (.hook i)) (none : es = []) (running : h.running = true)
      (removal : h'.removed = h.removed) (ran : HookPass s i s' h h')

section Steps

variable {s s' : Client} {i : Nat} {h : Hook} {choice : Choice}

lemma filterMap_index {α β : Type} {f : α → Option β} {l : List α} (distinct : (l.filterMap f).Nodup)
    {i j : Nat} {a b : α} {x : β} (ha : l[i]? = some a) (hb : l[j]? = some b) (hx : f a = some x)
    (hy : f b = some x) : i = j := by
  have hpair := List.pairwise_iff_getElem.mp (List.pairwise_filterMap.mp distinct)
  obtain ⟨hi, rfl⟩ := List.getElem?_eq_some_iff.mp ha
  obtain ⟨hj, rfl⟩ := List.getElem?_eq_some_iff.mp hb
  rcases Nat.lt_trichotomy i j with hlt | heq | hgt
  · exact absurd rfl (hpair i j hi hj hlt x hx x hy)
  · exact heq
  · exact absurd rfl (hpair j i hj hi hgt x hy x hx)

lemma own_receiver (hh : s.hooks[i]? = some h) {id : Nat} (hr : receiverOf? h = some id) :
    id ∈ ownReceivers s := by
  refine List.mem_append_right _ ?_
  exact List.mem_filterMap.mpr ⟨h, List.mem_of_getElem? hh, hr⟩

/-- Nobody reads what is there for a hook but the hook. -/
lemma reader_apart (w : Wired s) (hh : s.hooks[i]? = some h) {id : Nat}
    (hr : receiverOf? h = some id) (hother : runner? choice ≠ some i) :
    reader? s choice ≠ some id := by
  have hdistinct : (s.listener.toList ++ s.hooks.filterMap receiverOf?).Nodup := w.distinct
  obtain ⟨-, hhooks, hapart⟩ := List.nodup_append.mp hdistinct
  cases choice with
  | work t =>
    cases t with
    | listener =>
      intro hl
      have hl : s.listener = some id := hl
      refine hapart id ?_ id ?_ rfl
      · rw [hl]
        exact List.mem_singleton_self id
      · exact List.mem_filterMap.mpr ⟨h, List.mem_of_getElem? hh, hr⟩
    | hook j =>
      intro hj
      obtain ⟨g, hg, hgr⟩ := Option.bind_eq_some_iff.mp hj
      refine hother ?_
      rw [filterMap_index hhooks hh hg hr hgr]
      rfl
    | _ => exact nofun
  | _ => exact nofun

lemma awaiting_transitions (s : Client) {queue : List (ConnectionState × ConnectionState)}
    (hsource : h.source = .transitions queue) :
    awaiting s h = queue.map fun t => .transition t.1 t.2 := by
  unfold awaiting
  rw [hsource]

lemma awaiting_faults {id : Nat} {r : Receiver} (hsource : h.source = .faults id)
    (hr : s.hub.bus.receivers.get? id = some r) :
    awaiting s h = r.pending.filterMap (wants (some id)) := by
  unfold awaiting
  rw [hsource]
  simp only [hr]

lemma lag_faults {id : Nat} {r : Receiver} (hsource : h.source = .faults id)
    (hr : s.hub.bus.receivers.get? id = some r) : lag s h = r.missed := by
  unfold lag
  rw [hsource]
  simp only [hr, Option.map_some, Option.getD_some]

/-- While others go on, a hook takes over what is published. -/
lemma hook_hears {es : List Event} (w : Wired s) (hh : s.hooks[i]? = some h) (attached : Attached s h)
    (a : Aired s choice es s') (hother : runner? choice ≠ some i) :
    ∃ h', s'.hooks[i]? = some h' ∧ receiverOf? h' = receiverOf? h ∧ Attached s' h' ∧
      HookStep s i choice es s' h h' := by
  obtain ⟨hlt, -⟩ := List.getElem?_eq_some_iff.mp hh
  have hget := a.hooks i hlt hother
  rw [hh, Option.map_some] at hget
  have hreceiver := receiverOf_overheard h es (removed? choice = some i)
  have hsilent := a.hub.noticed i hother
  refine ⟨_, hget, hreceiver, ?_, ?_⟩
  · intro hrunning id hid
    rw [hreceiver] at hid
    obtain ⟨r, hr⟩ := attached hrunning id hid
    refine ⟨acceptAll s.hub.bus.ring es r, ?_⟩
    rw [a.hub.receivers id (w.known id (own_receiver hh hid))
      ⟨own_receiver hh hid, reader_apart w hh hid hother⟩, hr, Option.map_some]
  · cases hsource : h.source with
    | transitions queue =>
      have hnone : receiverOf? h = none := by rw [receiverOf?, hsource]
      have hqueue (hrunning : h.running = true) :
          awaiting s' (overheard es (removed? choice = some i) h) =
            awaiting s h ++ es.filterMap (wants (receiverOf? h)) := by
        have hafter : (overheard es (removed? choice = some i) h).source =
            .transitions (queue ++ es.filterMap transition?) := by
          simp only [overheard, hsource, hrunning, if_true]
        rw [awaiting_transitions s hsource, awaiting_transitions s' hafter, List.map_append, hnone,
          List.map_filterMap]
        rfl
      refine .hears hother hsilent rfl rfl rfl ?_ fun hrunning _ _ => hqueue hrunning
      intro hrunning
      rw [hqueue hrunning]
    | faults id =>
      have hid : receiverOf? h = some id := by rw [receiverOf?, hsource]
      have hafter : (overheard es (removed? choice = some i) h).source = .faults id := by
        simp only [overheard, hsource]
      have hboth (hrunning : h.running = true) : ∃ r, s.hub.bus.receivers.get? id = some r ∧
          s'.hub.bus.receivers.get? id = some (acceptAll s.hub.bus.ring es r) := by
        obtain ⟨r, hr⟩ := attached hrunning id hid
        refine ⟨r, hr, ?_⟩
        rw [a.hub.receivers id (w.known id (own_receiver hh hid))
          ⟨own_receiver hh hid, reader_apart w hh hid hother⟩, hr, Option.map_some]
      refine .hears hother hsilent rfl rfl rfl ?_ ?_
      · intro hrunning
        obtain ⟨r, hr, hr'⟩ := hboth hrunning
        obtain ⟨hsuffix, -, -⟩ := acceptAll_kept s.hub.bus.ring r es
        rw [awaiting_faults hsource hr, awaiting_faults hafter hr', hid, ← List.filterMap_append]
        exact hsuffix.filterMap _
      · intro hrunning hkept hkept'
        obtain ⟨r, hr, hr'⟩ := hboth hrunning
        rw [lag_faults hsource hr] at hkept
        rw [lag_faults hafter hr'] at hkept'
        obtain ⟨-, -, hwhole⟩ := acceptAll_kept s.hub.bus.ring r es
        rw [awaiting_faults hsource hr, awaiting_faults hafter hr', hid,
          hwhole (hkept'.trans hkept.symm), List.filterMap_append]

lemma load_faults {id : Nat} {r : Receiver} (hsource : h.source = .faults id)
    (hr : s.hub.bus.receivers.get? id = some r) : load s h = r.pending.length + r.missed := by
  unfold load
  rw [hsource]
  simp only [hr]

lemma setHook_own (g : Hook) (hh : s.hooks[i]? = some h) : (s.setHook i g).hooks[i]? = some g := by
  obtain ⟨hlt, -⟩ := List.getElem?_eq_some_iff.mp hh
  exact List.getElem?_set_self hlt

lemma findsNothing_awaiting (attached : Attached s h) (running : h.running = true)
    (nothing : FindsNothing s h) : awaiting s h = [] := by
  rcases nothing with source | ⟨id, source, empty⟩
  · exact awaiting_transitions s source
  · obtain ⟨r, hr⟩ := attached running id (by rw [receiverOf?, source])
    rw [awaiting_faults source hr, (receive_empty hr empty).2]
    rfl

lemma ended_hook (hh : s.hooks[i]? = some h) :
    (s.endHook i h).hooks[i]? = some { h with running := false } ∧
      noticed (s.endHook i h).hub i = noticed s.hub i := by
  have hset := setHook_own { h with running := false } hh
  unfold Client.endHook
  split
  · exact ⟨hset, rfl⟩
  · exact ⟨hset, rfl⟩

/-- A hook that runs is called with what has waited longest. -/
lemma hook_runs (w : Wired s) (hh : s.hooks[i]? = some h) (hrunning : h.running = true)
    (attached : Attached s h) (hs : s.stepHook i h = some s') :
    ∃ h', s'.hooks[i]? = some h' ∧ receiverOf? h' = receiverOf? h ∧ Attached s' h' ∧
      h'.removed = h.removed ∧ HookPass s i s' h h' := by
  have hafter (id : Nat) (r' : Receiver) :
      (s.hub.bus.receivers.insert id r').get? id = some r' := by
    rw [Table.get?_insert, if_pos rfl]
  -- A hook that reads its receiver has it still.
  have hattached {id : Nat} {t : Client} {r' : Receiver} (source : h.source = .faults id)
      (ht : t.hub.bus.receivers = s.hub.bus.receivers.insert id r') : Attached t h := by
    intro _ id' hid'
    rw [receiverOf?, source] at hid'
    obtain rfl := Option.some.inj hid'
    exact ⟨r', ht ▸ hafter id r'⟩
  cases stepHook_run hs with
  | calls source target rest reading queue =>
    have hnone : receiverOf? h = none := by rw [receiverOf?, queue]
    refine ⟨_, setHook_own { h with source := .transitions rest } hh, hnone.symm, ?_, rfl, ?_⟩
    · intro _ id other
      cases other
    refine .called (.transition source target) reading hrunning reading ?_ ?_ ?_
    · refine (noticed_note s.hub _ i).trans ?_
      simp [noticeFor?]
    · rw [awaiting_transitions s queue]
      rfl
    · simp [load, queue]
  | tells id e fault reading source found shown =>
    obtain ⟨r, hr⟩ := attached hrunning id (by rw [receiverOf?, source])
    obtain ⟨rest, whole, pending, hbus⟩ := receive_event hr found
    have hget := hafter id { r with pending := rest }
    rw [hbus]
    refine ⟨h, hh, rfl, hattached source rfl, rfl, .called (.fault fault) reading hrunning reading ?_ ?_ ?_⟩
    · refine (noticed_note s.hub _ i).trans ?_
      simp [noticeFor?]
    · have hwant : wants (some id) e = some (.fault fault) := by rw [wants, shown, Option.map_some]
      rw [awaiting_faults source hr, pending, List.filterMap_cons_some hwant,
        awaiting_faults source hget]
    · rw [load_faults source hr, load_faults source hget, pending]
      simp
  | skips id reading source found =>
    obtain ⟨r, hr⟩ := attached hrunning id (by rw [receiverOf?, source])
    rcases found with ⟨e, found, unshown⟩ | ⟨n, found⟩
    · obtain ⟨rest, whole, pending, hbus⟩ := receive_event hr found
      have hget := hafter id { r with pending := rest }
      rw [hbus]
      refine ⟨h, hh, rfl, hattached source rfl, rfl, .skips reading hrunning reading rfl ?_ ?_⟩
      · have hwant : wants (some id) e = none := by rw [wants, unshown, Option.map_none]
        rw [awaiting_faults source hr, pending, List.filterMap_cons_none hwant,
          awaiting_faults source hget]
      · rw [load_faults source hr, load_faults source hget, pending]
        simp
    · obtain ⟨behind, hbus⟩ := receive_lagged hr found
      have hget := hafter id { r with missed := 0 }
      rw [hbus]
      refine ⟨h, hh, rfl, hattached source rfl, rfl, .skips reading hrunning reading rfl ?_ ?_⟩
      · rw [awaiting_faults source hr, awaiting_faults source hget]
      · rw [load_faults source hr, load_faults source hget]
        exact Nat.add_lt_add_left behind _
  | finds reading nothing =>
    have idle := findsNothing_awaiting attached hrunning nothing
    exact ⟨_, setHook_own { h with pass := .checking } hh, rfl, attached, rfl,
      .finds reading hrunning rfl rfl nothing idle rfl⟩
  | rests checking kept goesOn =>
    refine ⟨_, setHook_own { h with pass := .waiting } hh, rfl, attached, rfl, ?_⟩
    exact .turns (by simp [checking]) hrunning (by simp) rfl rfl (by simp [checking])
      fun _ => ⟨kept, goesOn⟩
  | wakes waiting =>
    refine ⟨_, setHook_own { h with pass := .reading } hh, rfl, attached, rfl, ?_⟩
    exact .turns (by simp [waiting]) hrunning (by simp) rfl rfl (fun _ => rfl) (by simp [waiting])
  | leaves checking cause =>
    obtain ⟨hended, hsilent⟩ := ended_hook hh
    refine ⟨_, hended, rfl, ?_, rfl, .ends checking rfl cause hsilent⟩
    intro other
    cases other
  | parts id reading source found =>
    obtain ⟨r, hr⟩ := attached hrunning id (by rw [receiverOf?, source])
    exact absurd found (receive_open hr w.publishers)

/-- Every step is one of the steps that there are for a hook. -/
theorem hook_step (w : Wired s) (hh : s.hooks[i]? = some h) (attached : Attached s h)
    (taken : next? s choice = some s') : ∃ es h', Aired s choice es s' ∧ s'.hooks[i]? = some h' ∧
      receiverOf? h' = receiverOf? h ∧ Attached s' h' ∧ HookStep s i choice es s' h h' := by
  obtain ⟨es, a⟩ := next_aired w taken
  by_cases hr : runner? choice = some i
  · obtain ⟨g, hg, hrunning, hs⟩ := runner_there taken hr
    obtain rfl : g = h := Option.some.inj (hg.symm.trans hh)
    obtain rfl := runner_own hr
    obtain rfl : es = [] := List.map_eq_nil_iff.mp (a.work _ rfl)
    obtain ⟨h', hget, hreceiver, hattached, hremoved, ran⟩ := hook_runs w hh hrunning attached hs
    exact ⟨[], h', a, hget, hreceiver, hattached, .runs rfl rfl hrunning hremoved ran⟩
  · obtain ⟨h', hget, hreceiver, hattached, hstep⟩ := hook_hears w hh attached a hr
    exact ⟨es, h', a, hget, hreceiver, hattached, hstep⟩

end Steps

lemma fresh_attached (c : Config) (observers : List Observer) (i : Nat) (h : Hook)
    (hh : (Client.fresh c observers).hooks[i]? = some h) : Attached (.fresh c observers) h := by
  have hempty : (Client.fresh c observers).hooks = [] := by
    unfold Client.fresh
    split <;> rfl
  rw [hempty] at hh
  cases hh

/-- Every hook of a client has its receiver as long as it runs. -/
theorem journey_attached {s₀ s : Client} {trail : Trail} (w : Wired s₀)
    (start : ∀ (i : Nat) h, s₀.hooks[i]? = some h → Attached s₀ h) (j : Journey s₀ trail s)
    (i : Nat) (h : Hook) (hh : s.hooks[i]? = some h) : Attached s h := by
  induction j generalizing i h with
  | start => exact start i h hh
  | @step trail s s' choice past taken ih =>
    have w' := journey_wired w past
    by_cases hi : i < s.hooks.length
    · have hold : s.hooks[i]? = some s.hooks[i] := List.getElem?_eq_getElem hi
      obtain ⟨es, h', -, hh', -, attached, -⟩ := hook_step w' hold (ih i _ hold) taken
      obtain rfl : h' = h := Option.some.inj (hh'.symm.trans hh)
      exact attached
    · obtain ⟨es, a⟩ := next_aired w' taken
      exact a.newcomers i h (Nat.le_of_not_lt hi) hh

/-! ## Along a journey -/

/-- The events that were published from the first client to the second. -/
def publishedSince (s₁ s : Client) : List Event :=
  (announced s.hub).drop (announced s₁.hub).length

/-- What was published for a hook from the first client to the second. -/
def noticesSince (s₁ : Client) (h : Hook) (s : Client) : List Notice :=
  (publishedSince s₁ s).filterMap (wants (receiverOf? h))

def lagOf (s : Client) (i : Nat) : Nat := ((s.hooks[i]?).map (lag s)).getD 0

/-- The hook never lags. A hook for transitions cannot. -/
def KeepsUp (i : Nat) (h : Hook) (trail : Trail) (s : Client) : Prop :=
  receiverOf? h = none ∨ (∀ m ∈ trail, lagOf m.before i = 0) ∧ lagOf s i = 0

/-- A hook whose task runs to the end of the journey. -/
structure Serving (s₁ : Client) (i : Nat) (h₁ : Hook) (trail : Trail) (s : Client) (h : Hook) :
    Prop where
  journey : Journey s₁ trail s
  hook : s.hooks[i]? = some h
  receiver : receiverOf? h = receiverOf? h₁
  attached : Attached s h
  running : h.running = true
  removed : h.removed = true ↔ h₁.removed = true ∨ ∃ m ∈ trail, removed? m.choice = some i
  passed : (noticed s.hub i ++ awaiting s h).Sublist
    (noticed s₁.hub i ++ awaiting s₁ h₁ ++ noticesSince s₁ h₁ s)
  whole : KeepsUp i h₁ trail s →
    noticed s.hub i ++ awaiting s h = noticed s₁.hub i ++ awaiting s₁ h₁ ++ noticesSince s₁ h₁ s

/-- The last look of a hook's task: it found nothing to read in the first client, took no step while
others did, and saw in the second client that it shall end. -/
structure LastLook (i : Nat) (found : Client) (gap : Trail) (mid : Client) : Prop where
  idle : ∃ h, found.hooks[i]? = some h ∧ h.running = true ∧ h.pass = .reading ∧ FindsNothing found h
  alone : ∃ others, gap = ⟨found, .work (.hook i)⟩ :: others ∧ ∀ m ∈ others, runner? m.choice ≠ some i
  journey : Journey found gap mid
  asked : ∃ h, mid.hooks[i]? = some h ∧ h.running = true ∧ h.pass = .checking ∧
    (h.removed = true ∨ mid.shutdown = true)

/-- The task of a hook has looked, found nothing, and taken no other step since. -/
inductive Looked (s₁ : Client) (i : Nat) (h₁ : Hook) : Trail → Client → Prop
  | intro {before others : Trail} {found s : Client} {g : Hook}
      (serving : Serving s₁ i h₁ before found g) (reading : g.pass = .reading)
      (nothing : FindsNothing found g) (idle : awaiting found g = [])
      (alone : ∀ m ∈ others, runner? m.choice ≠ some i)
      (later : Journey found (⟨found, .work (.hook i)⟩ :: others) s)
      (silent : noticed s.hub i = noticed found.hub i) :
    Looked s₁ i h₁ (before ++ ⟨found, .work (.hook i)⟩ :: others) s

/-- The task of a hook had looked before the first client, and has taken no step since. -/
structure LookedBefore (s₁ : Client) (i : Nat) (h₁ : Hook) (trail : Trail) (s : Client) : Prop where
  checking : h₁.pass = .checking
  alone : ∀ m ∈ trail, runner? m.choice ≠ some i
  journey : Journey s₁ trail s
  silent : noticed s.hub i = noticed s₁.hub i

/-- What becomes of a hook. -/
inductive HookFate (s₁ : Client) (i : Nat) (h₁ : Hook) : Trail → Client → Prop
  | serves {trail : Trail} {s : Client} {h : Hook} (serving : Serving s₁ i h₁ trail s h)
      (looked : h.pass = .checking → Looked s₁ i h₁ trail s ∨ LookedBefore s₁ i h₁ trail s) :
    HookFate s₁ i h₁ trail s
  | ended {before gap after : Trail} {found mid s : Client} {g h h' : Hook}
      (serving : Serving s₁ i h₁ before found g) (idle : awaiting found g = [])
      (look : LastLook i found gap mid) (last : Serving s₁ i h₁ (before ++ gap) mid h)
      (cause : h.removed = true ∨ mid.shutdown = true) (later : Journey mid (⟨mid, .work (.hook i)⟩ :: after) s)
      (hook : s.hooks[i]? = some h') (stopped : h'.running = false)
      (silent : noticed s.hub i = noticed found.hub i) :
    HookFate s₁ i h₁ (before ++ gap ++ ⟨mid, .work (.hook i)⟩ :: after) s
  | left {gap after : Trail} {mid s : Client} {h' : Hook} (looked : LookedBefore s₁ i h₁ gap mid)
      (later : Journey mid (⟨mid, .work (.hook i)⟩ :: after) s) (hook : s.hooks[i]? = some h')
      (stopped : h'.running = false) (silent : noticed s.hub i = noticed s₁.hub i) :
    HookFate s₁ i h₁ (gap ++ ⟨mid, .work (.hook i)⟩ :: after) s

section Journeys

variable {s₀ s₁ s s' : Client} {i : Nat} {h h₁ h' : Hook} {trail : Trail} {choice : Choice}

lemma journey_announced (w : Wired s₁) (j : Journey s₁ trail s) :
    announced s.hub = announced s₁.hub ++ publishedSince s₁ s := by
  have hprefix : announced s₁.hub <+: announced s.hub := by
    induction j with
    | start => exact List.prefix_rfl
    | step choice past taken ih =>
      obtain ⟨es, a⟩ := next_aired (journey_wired w past) taken
      rw [a.hub.announced]
      exact ih.trans (List.prefix_append _ es)
  obtain ⟨es, hes⟩ := hprefix
  rw [publishedSince, ← hes, List.drop_left]

lemma publishedSince_step {es : List Event} (w : Wired s₁) (j : Journey s₁ trail s)
    (hes : announced s'.hub = announced s.hub ++ es) :
    publishedSince s₁ s' = publishedSince s₁ s ++ es := by
  rw [publishedSince, hes, journey_announced w j, List.append_assoc, List.drop_left]

lemma publishedSince_refl (s : Client) : publishedSince s s = [] := List.drop_length

lemma noticesSince_step {es : List Event} (w : Wired s₁) (j : Journey s₁ trail s)
    (hes : announced s'.hub = announced s.hub ++ es) :
    noticesSince s₁ h s' = noticesSince s₁ h s ++ es.filterMap (wants (receiverOf? h)) := by
  rw [noticesSince, publishedSince_step w j hes, List.filterMap_append]
  rfl

lemma lagOf_hook (hh : s.hooks[i]? = some h) : lagOf s i = lag s h := by
  rw [lagOf, hh, Option.map_some, Option.getD_some]

lemma keepsUp_before (k : KeepsUp i h (trail ++ [⟨s, choice⟩]) s') : KeepsUp i h trail s := by
  rcases k with hnone | ⟨hbefore, -⟩
  · exact Or.inl hnone
  · refine Or.inr ⟨fun m hm => hbefore m (List.mem_append_left _ hm), ?_⟩
    exact hbefore ⟨s, choice⟩ (List.mem_append_right _ (List.mem_singleton_self _))

lemma keepsUp_earlier {mid : Client} {after : Trail} (k : KeepsUp i h (trail ++ after) s)
    (j : Journey mid after s) : KeepsUp i h trail mid := by
  induction j with
  | start => rwa [List.append_nil] at k
  | step choice past taken ih =>
    rw [← List.append_assoc] at k
    exact ih (keepsUp_before k)

lemma keepsUp_lag (k : KeepsUp i h₁ trail s) (hh : s.hooks[i]? = some h)
    (hreceiver : receiverOf? h = receiverOf? h₁) : lag s h = 0 := by
  rcases k with hnone | ⟨-, hlag⟩
  · rw [← hreceiver] at hnone
    cases hsource : h.source with
    | transitions queue => simp [lag, hsource]
    | faults id => simp [receiverOf?, hsource] at hnone
  · rw [← lagOf_hook hh]
    exact hlag

/-- A hook that runs on has been passed, or still has waiting, what there was before and what was
published in the step. -/
lemma serving_step {es : List Event} (w : Wired s₁) (v : Serving s₁ i h₁ trail s h)
    (taken : next? s choice = some s') (a : Aired s choice es s') (hh' : s'.hooks[i]? = some h')
    (hreceiver : receiverOf? h' = receiverOf? h) (attached : Attached s' h')
    (running : h'.running = true)
    (removal : h'.removed = (h.removed || removed? choice = some i))
    (suffix : noticed s'.hub i ++ awaiting s' h' |>.Sublist
      (noticed s.hub i ++ awaiting s h ++ es.filterMap (wants (receiverOf? h))))
    (whole : lag s h = 0 → lag s' h' = 0 → noticed s'.hub i ++ awaiting s' h' =
      noticed s.hub i ++ awaiting s h ++ es.filterMap (wants (receiverOf? h))) :
    Serving s₁ i h₁ (trail ++ [⟨s, choice⟩]) s' h' where
  journey := .step choice v.journey taken
  hook := hh'
  receiver := hreceiver.trans v.receiver
  attached := attached
  running := running
  removed := by
    rw [removal, Bool.or_eq_true, v.removed, decide_eq_true_iff]
    simp only [List.mem_append, List.mem_singleton, or_and_right, exists_or, exists_eq_left, or_assoc]
  passed := by
    rw [noticesSince_step w v.journey a.hub.announced, ← List.append_assoc, ← v.receiver]
    exact suffix.trans (v.passed.append (List.Sublist.refl _))
  whole := by
    intro k
    have hlag : lag s h = 0 := keepsUp_lag (keepsUp_before k) v.hook v.receiver
    have hlag' : lag s' h' = 0 := keepsUp_lag k hh' (hreceiver.trans v.receiver)
    rw [whole hlag hlag', v.whole (keepsUp_before k), noticesSince_step w v.journey a.hub.announced,
      v.receiver, List.append_assoc]

lemma serving_start (hh : s.hooks[i]? = some h) (attached : Attached s h)
    (running : h.running = true) : Serving s i h [] s h := by
  have hnone : noticesSince s h s = [] := by rw [noticesSince, publishedSince_refl]; rfl
  refine ⟨.start, hh, rfl, attached, running, by simp, ?_, fun _ => ?_⟩
  · rw [hnone, List.append_nil]
  · rw [hnone, List.append_nil]

/-- A hook that nobody removes is asked to end by the supervisor only, which has left by then. -/
lemma serving_exited (w : Wired s₁) (v : Serving s₁ i h₁ trail s h) (kept : h₁.removed = false)
    (never : ∀ m ∈ trail, removed? m.choice ≠ some i)
    (cause : h.removed = true ∨ s.shutdown = true) : s.supervisor.phase = .exited := by
  rcases cause with hremoved | hshutdown
  · rcases v.removed.mp hremoved with hremoved | ⟨m, hm, hremoved⟩
    · exact absurd (kept.symm.trans hremoved) nofun
    · exact absurd hremoved (never m hm)
  · exact (journey_wired w v.journey).ended.mp hshutdown

/-- A hook that has ended stays so, and its callback is not called any more. -/
lemma stopped_step (w : Wired s) (hook : s.hooks[i]? = some h) (stopped : h.running = false)
    (taken : next? s choice = some s') : ∃ h', s'.hooks[i]? = some h' ∧ h'.running = false ∧
      noticed s'.hub i = noticed s.hub i := by
  have hvacuous : Attached s h := by
    intro hrunning
    rw [stopped] at hrunning
    cases hrunning
  obtain ⟨es, h', -, hh', -, -, hstep⟩ := hook_step w hook hvacuous taken
  cases hstep with
  | hears _ silent same => exact ⟨h', hh', same.trans stopped, silent⟩
  | runs own none running => exact absurd (running.symm.trans stopped) nofun

lemma stopped_journey (w : Wired s₁) (hook : s₁.hooks[i]? = some h) (stopped : h.running = false)
    (j : Journey s₁ trail s) : ∃ h', s.hooks[i]? = some h' ∧ h'.running = false ∧
      noticed s.hub i = noticed s₁.hub i := by
  induction j with
  | start => exact ⟨h, hook, stopped, rfl⟩
  | step choice past taken ih =>
    obtain ⟨h', hook', stopped', silent'⟩ := ih
    obtain ⟨h'', hook'', stopped'', silent''⟩ :=
      stopped_step (journey_wired w past) hook' stopped' taken
    exact ⟨h'', hook'', stopped'', silent''.trans silent'⟩

/-- While others take their steps, the last look of a hook's task stays the last. -/
lemma looked_on (looked : Looked s₁ i h₁ trail s ∨ LookedBefore s₁ i h₁ trail s)
    (other : runner? choice ≠ some i) (taken : next? s choice = some s')
    (silent : noticed s'.hub i = noticed s.hub i) :
    Looked s₁ i h₁ (trail ++ [⟨s, choice⟩]) s' ∨ LookedBefore s₁ i h₁ (trail ++ [⟨s, choice⟩]) s' := by
  have alone {others : Trail} (past : ∀ m ∈ others, runner? m.choice ≠ some i) :
      ∀ m ∈ others ++ [⟨s, choice⟩], runner? m.choice ≠ some i :=
    List.forall_mem_append.mpr ⟨past, List.forall_mem_singleton.mpr other⟩
  rcases looked with look | look
  · cases look with
    | intro serving reading nothing idle others later told =>
      rw [List.append_assoc, List.cons_append]
      exact Or.inl (.intro serving reading nothing idle (alone others) (.step choice later taken)
        (silent.trans told))
  · exact Or.inr ⟨look.checking, alone look.alone, .step choice look.journey taken,
      silent.trans look.silent⟩

/-- A hook that has looked last sees that it shall end. -/
lemma looked_ends (v : Serving s₁ i h₁ trail s h) (checking : h.pass = .checking)
    (looked : Looked s₁ i h₁ trail s ∨ LookedBefore s₁ i h₁ trail s)
    (cause : h.removed = true ∨ s.shutdown = true) (taken : next? s (.work (.hook i)) = some s')
    (hook : s'.hooks[i]? = some h') (stopped : h'.running = false)
    (silent : noticed s'.hub i = noticed s.hub i) :
    HookFate s₁ i h₁ (trail ++ [⟨s, .work (.hook i)⟩]) s' := by
  have last : Journey s [⟨s, .work (.hook i)⟩] s' := .step _ .start taken
  rcases looked with look | look
  · cases look with
    | @intro before others found _ g serving reading nothing idle alone later told =>
      have look : LastLook i found (⟨found, .work (.hook i)⟩ :: others) s :=
        ⟨⟨g, serving.hook, serving.running, reading, nothing⟩, ⟨others, rfl, alone⟩, later,
          ⟨h, v.hook, v.running, checking, cause⟩⟩
      exact .ended serving idle look v cause last hook stopped (silent.trans told)
  · exact .left look last hook stopped (silent.trans look.silent)

/-- A hook serves to the end, or until it had found nothing and was asked to end. -/
theorem hook_fate (w : Wired s₁) (hh : s₁.hooks[i]? = some h₁) (attached : Attached s₁ h₁)
    (running : h₁.running = true) (j : Journey s₁ trail s) : HookFate s₁ i h₁ trail s := by
  induction j with
  | start =>
    refine .serves (serving_start hh attached running) fun checking => Or.inr ?_
    exact ⟨checking, List.forall_mem_nil _, .start, rfl⟩
  | @step trail s s' choice past taken ih =>
    have w' := journey_wired w past
    cases ih with
    | @serves _ _ h v looked =>
      obtain ⟨es, h', a, hh', hreceiver, hattached, hstep⟩ := hook_step w' v.hook v.attached taken
      cases hstep with
      | hears other silent same pass removal suffix whole =>
        refine .serves (serving_step w v taken a hh' hreceiver hattached (same.trans v.running) removal
          ?_ fun hlag hlag' => ?_) fun checking => ?_
        · rw [silent, List.append_assoc]
          exact (List.Sublist.refl _).append (suffix v.running).sublist
        · rw [silent, whole v.running hlag hlag', List.append_assoc]
        · exact looked_on (looked (pass.symm.trans checking)) other taken silent
      | runs own none running removal ran =>
        subst own none
        have kept : h'.removed = (h.removed || removed? (.work (.hook i)) = some i) := by
          simp [removal, removed?]
        have serves (still : h'.running = true)
            (moved : noticed s'.hub i ++ awaiting s' h' = noticed s.hub i ++ awaiting s h) :
            Serving s₁ i h₁ (trail ++ [⟨s, .work (.hook i)⟩]) s' h' := by
          rw [← List.append_nil (noticed s.hub i ++ awaiting s h)] at moved
          exact serving_step w v taken a hh' hreceiver hattached still kept
            (moved ▸ List.Sublist.refl _) fun _ _ => moved
        cases ran with
        | called n reading still goesOn told next =>
          refine .serves (serves still ?_) fun checking => by cases goesOn.symm.trans checking
          rw [told, next, List.append_assoc, List.singleton_append]
        | skips reading still goesOn silent same =>
          refine .serves (serves still ?_) fun checking => by cases goesOn.symm.trans checking
          rw [silent, same]
        | finds reading still checking silent nothing idle same =>
          refine .serves (serves still (by rw [silent, same])) fun _ => Or.inl ?_
          exact .intro v reading nothing idle (List.forall_mem_nil _) (.step _ .start taken) silent
        | turns away still apart silent same =>
          exact .serves (serves still (by rw [silent, same])) fun checking => absurd checking apart
        | ends checking stopped cause silent =>
          exact looked_ends v checking (looked checking) cause taken hh' stopped silent
    | @ended before gap after found mid _ g h h' v idle look last cause later hook stopped silent =>
      obtain ⟨h'', hook', stopped', silent'⟩ := stopped_step w' hook stopped taken
      rw [List.append_assoc, List.cons_append]
      exact .ended v idle look last cause (.step choice later taken) hook' stopped'
        (silent'.trans silent)
    | @left gap after mid _ h looked later hook stopped silent =>
      obtain ⟨h'', hook', stopped', silent'⟩ := stopped_step w' hook stopped taken
      rw [List.append_assoc, List.cons_append]
      exact .left looked (.step choice later taken) hook' stopped' (silent'.trans silent)

/-! ## The end of a hook -/

/-- A hook that shall end never waits. -/
lemma hook_open (hh : s.hooks[i]? = some h) (running : h.running = true)
    (cause : h.removed = true ∨ s.shutdown = true) : ∃ s', next? s (.work (.hook i)) = some s' := by
  have asked : (h.removed || s.shutdown) = true := by simpa using cause
  have hstep : ∃ s', s.stepHook i h = some s' := by
    unfold Client.stepHook
    split
    case h_1 => exact ⟨_, rfl⟩
    case h_2 => exact ⟨_, if_pos asked⟩
    case h_3 => exact ⟨_, if_pos (by rw [asked, Bool.true_or])⟩
  obtain ⟨s', hs⟩ := hstep
  refine ⟨s', ?_⟩
  show s.stepTask (.hook i) = some s'
  simp only [Client.stepTask, hh, running, if_true, hs]

/-- The next step of a hook that shall end. -/
lemma hook_goes (w : Wired s) (hh : s.hooks[i]? = some h) (attached : Attached s h)
    (running : h.running = true) (cause : h.removed = true ∨ s.shutdown = true) :
    ∃ s' h', Journey s [⟨s, .work (.hook i)⟩] s' ∧ s'.hooks[i]? = some h' ∧ Attached s' h' ∧
      (h'.removed = true ∨ s'.shutdown = true) ∧ HookPass s i s' h h' := by
  obtain ⟨s', taken⟩ := hook_open hh running cause
  obtain ⟨es, h', a, hh', -, attached', hstep⟩ := hook_step w hh attached taken
  cases hstep with
  | hears other => exact absurd rfl other
  | runs own none _ removal ran =>
    refine ⟨s', h', .step _ .start taken, hh', attached', ?_, ran⟩
    rw [(a.still rfl).2, removal]
    exact cause

/-- The task of a hook runs to its end, and to nothing else. -/
structure RunsOut (s : Client) (i : Nat) (later : Trail) (s' : Client) (h' : Hook) : Prop where
  journey : Journey s later s'
  own : ∀ m ∈ later, m.choice = .work (.hook i)
  hook : s'.hooks[i]? = some h'
  stopped : h'.running = false

lemma runsOut_after {first later : Trail} {mid : Client} (j : Journey s first mid)
    (own : ∀ m ∈ first, m.choice = .work (.hook i)) (out : RunsOut mid i later s' h') :
    RunsOut s i (first ++ later) s' h' :=
  ⟨journey_append j out.journey, List.forall_mem_append.mpr ⟨own, out.own⟩, out.hook, out.stopped⟩

/-- A hook that has looked already ends with what it was called with. -/
lemma checking_ends (w : Wired s) (hh : s.hooks[i]? = some h) (attached : Attached s h)
    (running : h.running = true) (cause : h.removed = true ∨ s.shutdown = true)
    (checking : h.pass = .checking) :
    ∃ later s' h', RunsOut s i later s' h' ∧ noticed s'.hub i = noticed s.hub i := by
  obtain ⟨s', h', j, hh', -, -, ran⟩ := hook_goes w hh attached running cause
  cases ran with
  | ends _ stopped _ silent =>
    exact ⟨_, s', h', ⟨j, List.forall_mem_singleton.mpr rfl, hh', stopped⟩, silent⟩
  | turns away still apart silent same goesOn kept =>
    obtain ⟨unremoved, unending⟩ := kept checking
    rw [unremoved, unending] at cause
    exact absurd cause (by simp)
  | called n reading => cases checking.symm.trans reading
  | skips reading => cases checking.symm.trans reading
  | finds reading => cases checking.symm.trans reading

/-- A hook that reads runs for all that waits before it ends. -/
lemma reading_drains (w : Wired s) (hh : s.hooks[i]? = some h) (attached : Attached s h)
    (running : h.running = true) (cause : h.removed = true ∨ s.shutdown = true)
    (reading : h.pass = .reading) : ∃ later s' h', RunsOut s i later s' h' ∧
      noticed s'.hub i = noticed s.hub i ++ awaiting s h := by
  induction hn : load s h using Nat.strong_induction_on generalizing s h with
  | h n ih =>
    obtain ⟨s', h', j, hh', attached', cause', ran⟩ := hook_goes w hh attached running cause
    have own : ∀ m ∈ [(⟨s, .work (.hook i)⟩ : Move)], m.choice = .work (.hook i) :=
      List.forall_mem_singleton.mpr rfl
    have w' := journey_wired w j
    have goesOn (still : h'.running = true) (reading' : h'.pass = .reading)
        (passed : noticed s'.hub i ++ awaiting s' h' = noticed s.hub i ++ awaiting s h)
        (less : load s' h' < load s h) : ∃ later s' h', RunsOut s i later s' h' ∧
          noticed s'.hub i = noticed s.hub i ++ awaiting s h := by
      obtain ⟨later, s'', h'', out, hnoticed⟩ :=
        ih _ (hn ▸ less) w' hh' attached' still cause' reading' rfl
      exact ⟨_, s'', h'', runsOut_after j own out, hnoticed.trans passed⟩
    cases ran with
    | called n _ still reading' told next less =>
      refine goesOn still reading' ?_ less
      rw [told, next, List.append_assoc, List.singleton_append]
    | skips _ still reading' silent same less =>
      refine goesOn still reading' ?_ less
      rw [silent, same]
    | finds _ still checking silent nothing idle =>
      obtain ⟨later, s'', h'', out, hnoticed⟩ :=
        checking_ends w' hh' attached' still cause' checking
      refine ⟨_, s'', h'', runsOut_after j own out, ?_⟩
      rw [hnoticed, silent, idle, List.append_nil]
    | turns away => exact absurd reading away
    | ends checking => cases reading.symm.trans checking

/-- A hook that shall end comes to its end, after it has run for all that waits, unless it has looked
already. -/
theorem hook_drains (w : Wired s) (hh : s.hooks[i]? = some h) (attached : Attached s h)
    (running : h.running = true) (cause : h.removed = true ∨ s.shutdown = true) :
    ∃ later s' h', RunsOut s i later s' h' ∧
      (h.pass ≠ .checking → noticed s'.hub i = noticed s.hub i ++ awaiting s h) := by
  cases pass : h.pass with
  | reading =>
    obtain ⟨later, s', h', out, hnoticed⟩ := reading_drains w hh attached running cause pass
    exact ⟨later, s', h', out, fun _ => hnoticed⟩
  | checking =>
    obtain ⟨later, s', h', out, -⟩ := checking_ends w hh attached running cause pass
    exact ⟨later, s', h', out, fun away => absurd rfl away⟩
  | waiting =>
    obtain ⟨mid, g, j, hg, attached', cause', ran⟩ := hook_goes w hh attached running cause
    cases ran with
    | turns _ still _ silent same goesOn =>
      obtain ⟨later, s', h', out, hnoticed⟩ :=
        reading_drains (journey_wired w j) hg attached' still cause' (goesOn pass)
      refine ⟨_, s', h', runsOut_after j (List.forall_mem_singleton.mpr rfl) out, fun _ => ?_⟩
      rw [hnoticed, silent, same]
    | called n reading => cases pass.symm.trans reading
    | skips reading => cases pass.symm.trans reading
    | finds reading => cases pass.symm.trans reading
    | ends checking => cases pass.symm.trans checking

end Journeys

end SteadyLink.Proofs
