import Mathlib.Tactic.Lemma
import SteadyLink.Connection.Endpoint

/-!
# Which endpoints there are

What is read as an endpoint is the URL of a socket. What is resolved against a page keeps to that as
long as the reference brings no scheme of its own, because only the page is checked.
-/

namespace SteadyLink.Proofs

open Url

/-- The scheme that is written in front of a text, if there is one. -/
def writtenScheme? (raw : String) : Option (List Char) :=
  (splitScheme? (clean raw.toList)).map Prod.fst

/-- The URL of a socket: its scheme is one of the two for sockets, and it has a host. -/
structure IsSocket (e : Endpoint) : Prop where
  scheme : e.url.scheme = "ws".toList ∨ e.url.scheme = "wss".toList
  host : e.url.hasHost = true

/-- URLs with these schemes have a host. The special scheme that is missing is the one of files. -/
def needsHost (scheme : List Char) : Bool := isSpecial scheme && !isFile scheme

/-! ## Hosts -/

section Hosts

variable {s : List Char} {host : Host} {u : Url}

lemma ofBrackets_named (h : Host.ofBrackets s = .ok host) : host ≠ .name [] := by
  unfold Host.ofBrackets at h
  split at h
  · split at h
    · obtain rfl := Except.ok.inj h
      exact nofun
    · cases h
  · cases h

/-- A host that is read off a text is not empty. -/
lemma ofText_named (h : Host.ofText s = .ok host) : host ≠ .name [] := by
  unfold Host.ofText at h
  split at h
  case h_1 => exact ofBrackets_named h
  case h_2 =>
    split at h
    case h_1 => cases h
    case h_2 name _ =>
      by_cases hempty : name.isEmpty = true
      · rw [if_pos hempty] at h
        cases h
      · rw [if_neg hempty] at h
        split at h
        · cases h
        · simp only at h
          split at h
          · cases hp : Host.ipv4OfParts (Host.splitDots (name.map Char.toLower)) with
            | error p =>
              rw [hp] at h
              cases h
            | ok address =>
              rw [hp] at h
              obtain rfl := Except.ok.inj h
              exact nofun
          · obtain rfl := Except.ok.inj h
            intro hnone
            have hnil : name = [] := List.map_eq_nil_iff.mp (Host.name.inj hnone)
            exact hempty (hnil ▸ rfl)

lemma hasHost_of_named (hu : u.host = some host) (named : host ≠ .name []) : u.hasHost = true := by
  unfold hasHost
  rw [hu]
  split
  case h_1 hnone => exact absurd (Option.some.inj hnone) named
  case h_2 => rfl
  case h_3 hnone => cases hnone

end Hosts

/-! ## Reading a URL -/

section Reading

variable {scheme s : List Char} {u : Url}

lemma afterSlashes_url (h : afterSlashes scheme s = .ok u) :
    u.scheme = scheme ∧ (isSpecial scheme = true → u.hasHost = true) := by
  unfold afterSlashes at h
  simp only [bind, Except.bind, pure, Except.pure, throw, throwThe, MonadExceptOf.throw] at h
  split at h
  case h_1 => cases h
  case h_2 parts _ =>
    split at h
    case isTrue => cases h
    case isFalse =>
      split at h
      case isTrue hspecial =>
        split at h
        case h_1 => cases h
        case h_2 host hhost =>
          repeat (split at h; cases h)
          obtain rfl := Except.ok.inj h
          exact ⟨rfl, fun _ => hasHost_of_named rfl (ofText_named hhost)⟩
      case isFalse hplain =>
        split at h
        case h_1 => cases h
        case h_2 host hhost =>
          repeat (split at h; cases h)
          obtain rfl := Except.ok.inj h
          exact ⟨rfl, fun hspecial => absurd hspecial hplain⟩

lemma afterFileScheme_scheme (h : afterFileScheme s = .ok u) : u.scheme = "file".toList := by
  unfold afterFileScheme at h
  split at h
  case h_1 a b rest =>
    split at h
    · simp only at h
      split at h
      · obtain rfl := Except.ok.inj h
        rfl
      · cases hhost : Host.ofText (rest.takeWhile fun c => !endsAuthority true c) with
        | error p =>
          rw [hhost] at h
          cases h
        | ok host =>
          rw [hhost] at h
          obtain rfl := Except.ok.inj h
          rfl
    · obtain rfl := Except.ok.inj h
      rfl
  case h_2 =>
    obtain rfl := Except.ok.inj h
    rfl

lemma afterPlainScheme_scheme (h : afterPlainScheme scheme s = .ok u) : u.scheme = scheme := by
  unfold afterPlainScheme at h
  split at h
  · exact (afterSlashes_url h).1
  · obtain rfl := Except.ok.inj h
    rfl
  · obtain rfl := Except.ok.inj h
    rfl

/-- A reference without a scheme of its own leaves that of the base as it is. -/
lemma resolve_url {base : Url} (special : isSpecial base.scheme = true) (host : base.hasHost = true)
    (h : resolve base s = .ok u) : u.scheme = base.scheme ∧ u.hasHost = true := by
  have authority {s : List Char} (h : afterSlashes base.scheme s = .ok u) :
      u.scheme = base.scheme ∧ u.hasHost = true :=
    (afterSlashes_url h).imp_right (· special)
  unfold resolve at h
  split at h
  case h_1 | h_2 | h_3 =>
    obtain rfl := Except.ok.inj h
    exact ⟨rfl, host⟩
  case h_4 =>
    split at h
    · simp only at h
      split at h
      · split at h <;> exact authority h
      · obtain rfl := Except.ok.inj h
        exact ⟨rfl, host⟩
    · obtain rfl := Except.ok.inj h
      exact ⟨rfl, host⟩

/-- A URL has the scheme that it is written with, or else that of the base. -/
lemma parse_url {base : Option Url} {raw : String}
    (based : ∀ b ∈ base, needsHost b.scheme = true ∧ b.hasHost = true)
    (h : Url.parse base raw = .ok u) :
    some u.scheme = (writtenScheme? raw).or (base.map Url.scheme) ∧
      (needsHost u.scheme = true → u.hasHost = true) := by
  have special {b : Url} (hb : b ∈ base) : isSpecial b.scheme = true :=
    (Bool.and_eq_true_iff.mp (based b hb).1).1
  unfold Url.parse at h
  unfold writtenScheme?
  simp only at h
  split at h
  case h_2 hnone =>
    rw [hnone]
    split at h
    case h_1 b =>
      obtain ⟨hscheme, hhost⟩ := resolve_url (special rfl) (based b rfl).2 h
      exact ⟨congrArg some hscheme, fun _ => hhost⟩
    case h_2 => cases h
  case h_1 scheme rest hsome =>
    rw [hsome]
    have afterwards {s : List Char} (h : afterSlashes scheme s = .ok u) :
        some u.scheme = some scheme ∧ (needsHost u.scheme = true → u.hasHost = true) := by
      obtain ⟨hscheme, hhost⟩ := afterSlashes_url h
      refine ⟨congrArg some hscheme, fun needs => hhost ?_⟩
      exact hscheme ▸ (Bool.and_eq_true_iff.mp needs).1
    show some u.scheme = some scheme ∧ _
    split at h
    case isTrue hfile =>
      have hwritten : scheme = "file".toList := by
        rw [← String.toList_ofList (l := scheme), of_decide_eq_true hfile]
      rw [afterFileScheme_scheme h, hwritten]
      exact ⟨rfl, nofun⟩
    case isFalse =>
      split at h
      case isFalse plain =>
        rw [afterPlainScheme_scheme h]
        exact ⟨rfl, fun needs => absurd (Bool.and_eq_true_iff.mp needs).1 plain⟩
      case isTrue =>
        split at h
        case h_2 => exact afterwards h
        case h_1 b =>
          split at h
          case isFalse => exact afterwards h
          case isTrue same =>
            obtain ⟨hscheme, hhost⟩ := resolve_url (special rfl) (based b rfl).2 h
            exact ⟨congrArg some (hscheme.trans same.2), fun _ => hhost⟩

end Reading

/-! ## Endpoints -/

section Endpoints

variable {raw origin path : String} {scheme : List Char} {e : Endpoint}

/-- The text is written with a scheme that promises a secure connection. -/
def IsWrittenSecure (raw : String) : Prop :=
  writtenScheme? raw = some "https".toList ∨ writtenScheme? raw = some "wss".toList

/-- A reference that is safe to resolve against a page: it has no scheme of its own, or that of a
socket which is no worse than the page's. -/
def IsHarmless (origin path : String) : Prop :=
  ∀ scheme, writtenScheme? path = some scheme →
    scheme = "wss".toList ∨ scheme = "ws".toList ∧ ¬IsWrittenSecure origin

lemma socketScheme_cases {socket : List Char} (h : Endpoint.socketScheme? scheme = some socket) :
    (socket = "ws".toList ∧ (scheme = "ws".toList ∨ scheme = "http".toList)) ∨
      (socket = "wss".toList ∧ (scheme = "wss".toList ∨ scheme = "https".toList)) := by
  have written {text : String} (hs : String.ofList scheme = text) : scheme = text.toList := by
    rw [← hs, String.toList_ofList]
  unfold Endpoint.socketScheme? at h
  split at h
  case h_1 hs => exact Or.inl ⟨(Option.some.inj h).symm, Or.inl (written hs)⟩
  case h_2 hs => exact Or.inl ⟨(Option.some.inj h).symm, Or.inr (written hs)⟩
  case h_3 hs => exact Or.inr ⟨(Option.some.inj h).symm, Or.inl (written hs)⟩
  case h_4 hs => exact Or.inr ⟨(Option.some.inj h).symm, Or.inr (written hs)⟩
  case h_5 => cases h

/-- What is read as an endpoint is a socket's URL, and as secure as it is written. -/
lemma parse_endpoint (h : Endpoint.parse raw = .ok e) :
    IsSocket e ∧ (e.isSecure = true ↔ IsWrittenSecure raw) := by
  unfold Endpoint.parse at h
  split at h
  case h_1 => cases h
  case h_2 url hurl =>
    obtain ⟨hwritten, -⟩ := parse_url (by simp) hurl
    rw [Option.map_none, Option.or_none] at hwritten
    split at h
    case h_1 => cases h
    case h_2 socket hsocket =>
      split at h
      case isFalse => cases h
      case isTrue host =>
        obtain rfl := Except.ok.inj h
        have secure :
            (⟨url.withScheme socket⟩ : Endpoint).isSecure = true ↔ socket = "wss".toList :=
          decide_eq_true_iff
        rw [secure, IsWrittenSecure, ← hwritten, Option.some_inj, Option.some_inj]
        rcases socketScheme_cases hsocket with ⟨rfl, hs | hs⟩ | ⟨rfl, hs | hs⟩
        case inl.inl | inl.inr =>
          rw [hs]
          exact ⟨⟨Or.inl rfl, host⟩, by decide⟩
        case inr.inl | inr.inr =>
          rw [hs]
          exact ⟨⟨Or.inr rfl, host⟩, by decide⟩

/-- Whatever is resolved against a page has the scheme of the reference, or else the one for sockets
that goes with the page. -/
lemma ofOrigin_endpoint (h : Endpoint.ofOrigin origin path = .ok e) : ∃ base,
    Endpoint.parse origin = .ok base ∧
      some e.url.scheme = (writtenScheme? path).or (some base.url.scheme) ∧
      (needsHost e.url.scheme = true → e.url.hasHost = true) := by
  unfold Endpoint.ofOrigin at h
  split at h
  case h_1 => cases h
  case h_2 base hbase =>
    split at h
    case h_1 => cases h
    case h_2 url hurl =>
      obtain rfl := Except.ok.inj h
      refine ⟨base, hbase, parse_url ?_ hurl⟩
      intro b hb
      obtain rfl := Option.some.inj hb
      obtain ⟨⟨hscheme, hhost⟩, -⟩ := parse_endpoint hbase
      refine ⟨?_, hhost⟩
      rcases hscheme with hs | hs
      all_goals
        rw [hs]
        decide

/-- A socket has the host that its scheme calls for. -/
lemma isSocket_iff (hosted : needsHost e.url.scheme = true → e.url.hasHost = true) :
    IsSocket e ↔ e.url.scheme = "ws".toList ∨ e.url.scheme = "wss".toList := by
  refine ⟨IsSocket.scheme, fun hscheme => ⟨hscheme, hosted ?_⟩⟩
  rcases hscheme with hs | hs
  all_goals
    rw [hs]
    decide

/-- Which endpoints a caller can get from a text, or from the origin of a page and a reference. -/
structure EndpointLaw (origin path : String) : Prop where
  /-- What is read off a text is a socket, and secure exactly if the text says so. -/
  parsed : ∀ e, Endpoint.parse origin = .ok e →
    IsSocket e ∧ (e.isSecure = true ↔ IsWrittenSecure origin)
  /-- What is resolved against a page is a socket and no less secure than the page, exactly if the
  reference is harmless. -/
  resolved : ∀ e, Endpoint.ofOrigin origin path = .ok e →
    (IsSocket e ∧ (IsWrittenSecure origin → e.isSecure = true) ↔ IsHarmless origin path)
  /-- A scheme that the reference brings is taken as it is, whatever it is. -/
  unchecked : ∀ e scheme, Endpoint.ofOrigin origin path = .ok e →
    writtenScheme? path = some scheme → e.url.scheme = scheme

/-- Endpoints are sockets that are as secure as asked for, unless a reference says otherwise. -/
theorem endpoints_are_sockets (origin path : String) : EndpointLaw origin path where
  parsed := fun _ => parse_endpoint
  resolved := by
    intro e h
    obtain ⟨base, hbase, hscheme, hosted⟩ := ofOrigin_endpoint h
    obtain ⟨⟨hsocket, -⟩, hsecure⟩ := parse_endpoint hbase
    have secure (e : Endpoint) : e.isSecure = true ↔ e.url.scheme = "wss".toList :=
      decide_eq_true_iff
    rw [secure] at hsecure
    rw [isSocket_iff hosted, secure, IsHarmless, ← hsecure]
    cases hw : writtenScheme? path with
    | none =>
      rw [hw, Option.none_or, Option.some_inj] at hscheme
      rw [hscheme]
      exact iff_of_true ⟨hsocket, id⟩ nofun
    | some scheme =>
      rw [hw, Option.some_or, Option.some_inj] at hscheme
      simp only [hscheme, Option.some_inj, forall_eq']
      constructor
      · rintro ⟨hs | hs, upheld⟩
        · refine Or.inr ⟨hs, fun page => ?_⟩
          have both := hs.symm.trans (upheld page)
          exact absurd both (by decide)
        · exact Or.inl hs
      · rintro (hs | ⟨hs, plain⟩)
        · exact ⟨Or.inr hs, fun _ => hs⟩
        · exact ⟨Or.inl hs, fun page => absurd page plain⟩
  unchecked := by
    intro e scheme h hw
    obtain ⟨base, -, hscheme, -⟩ := ofOrigin_endpoint h
    rw [hw] at hscheme
    exact Option.some.inj hscheme

/-- The reference names no socket, and it has no host at all: the endpoint for a secure page is one
that nobody can connect to. -/
theorem endpoints_are_sockets_mailbox : ∃ e,
    Endpoint.ofOrigin "https://dash.example.com" "mailto:ops@example.com" = .ok e ∧
      IsWrittenSecure "https://dash.example.com" ∧ ¬IsSocket e ∧ e.url.hasHost = false ∧
      e.isSecure = false := by
  refine ⟨_, rfl, Or.inl (by decide +kernel), ?_, by decide +kernel, by decide +kernel⟩
  rintro ⟨-, host⟩
  revert host
  decide +kernel

end Endpoints

end SteadyLink.Proofs
