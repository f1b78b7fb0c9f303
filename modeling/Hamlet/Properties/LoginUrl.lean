import Hamlet.GatewayMqtt.Login
import Hamlet.Lib.UriHost
import Hamlet.Properties.WebSocketUrl

/-!
# The login URL

`Url::parse` cuts at the first `://`, then at the first slash, then at the last colon. Every
HTTP URL with a plain host comes back in its parts, and slashes at the end are harmless. The
last colon is the wrong place for an IPv6 literal without a port, and a few texts outside the
grammar get through.
-/

namespace Hamlet

open RustStr UriHost

def schemeText (tls : Bool) : String := if tls then "https" else "http"

/-- The parts of an HTTP URL that the parser looks for. -/
structure SplitsAs (input : String) (tls : Bool) (authority path : String) : Prop where
  text : input = schemeText tls ++ "://" ++ authority ++ path
  noSlash : '/' ∉ authority.toList
  rooted : Rooted path

/-! ### The cuts -/

theorem tlsOf_eq_some_iff (scheme : String) (tls : Bool) :
    Url.tlsOf scheme = some tls ↔ scheme = schemeText tls := by
  unfold Url.tlsOf
  constructor
  · intro known
    split at known
    next isHttps =>
      cases known
      exact isHttps
    next =>
      obtain ⟨isHttp, known⟩ := Option.ite_none_right_eq_some.mp known
      cases known
      exact isHttp
  · rintro rfl
    cases tls <;> decide

theorem splitOnce_scheme (tls : Bool) (rest : String) :
    splitOnce (schemeText tls ++ "://" ++ rest) "://" = some (schemeText tls, rest) := by
  apply splitOnce_append ':' ['/', '/']
  · decide
  · cases tls <;> decide

theorem splitPath_append {authority path : String} (noSlash : '/' ∉ authority.toList)
    (rooted : Rooted path) :
    Url.splitPath (authority ++ path) = (authority, if path = "" then "/" else path) := by
  unfold Url.splitPath
  rcases rooted with rfl | head
  · rw [if_neg (by simpa using noSlash)]
    simp
  · obtain ⟨rest, shape⟩ := List.head?_eq_some_iff.mp head
    have nonempty : path ≠ "" := by
      rintro rfl
      cases head
    have keeps : ∀ c ∈ authority.toList, (decide (c ≠ '/')) = true := by
      intro c member
      simpa using ne_of_mem_of_not_mem member noSlash
    have none : path.toList.takeWhile (· ≠ '/') = [] := by simp [shape]
    have whole : path.toList.dropWhile (· ≠ '/') = path.toList := by simp [shape]
    rw [String.toList_append, if_pos (by simp [shape]), List.takeWhile_append_of_pos keeps,
      List.dropWhile_append_of_pos keeps, none, whole, if_neg nonempty]
    simp

/-- Every text after the scheme has an authority and a path. -/
theorem exists_authority (rest : String) :
    ∃ authority path, rest = authority ++ path ∧ '/' ∉ authority.toList ∧ Rooted path := by
  refine ⟨String.ofList (rest.toList.takeWhile (· ≠ '/')),
    String.ofList (rest.toList.dropWhile (· ≠ '/')), ?_, ?_, ?_⟩
  · rw [← String.ofList_append, List.takeWhile_append_dropWhile, String.ofList_toList]
  · intro member
    rw [String.toList_ofList] at member
    have other := List.mem_takeWhile_imp member
    simp at other
  · cases shape : rest.toList.dropWhile (· ≠ '/') with
    | nil => exact .inl rfl
    | cons c path =>
      have stops := List.head?_dropWhile_not (· ≠ '/') rest.toList
      rw [shape] at stops
      right
      simpa using stops

variable {input : String} {tls : Bool} {authority path : String}

theorem SplitsAs.cut (splits : SplitsAs input tls authority path) :
    splitOnce input "://" = some (schemeText tls, authority ++ path) := by
  rw [splits.text, String.append_assoc, splitOnce_scheme]

theorem SplitsAs.parse (splits : SplitsAs input tls authority path) :
    Url.parse input = (Url.hostPort tls authority).elim
      (.error ("invalid port in '" ++ input ++ "'"))
      fun parts => .ok ⟨tls, parts.1, parts.2, if path = "" then "/" else path⟩ := by
  have parts := splitPath_append splits.noSlash splits.rooted
  simp only [Url.parse, splits.cut, (tlsOf_eq_some_iff _ tls).mpr rfl, parts]
  cases Url.hostPort tls authority <;> rfl

/-- The parser accepts nothing but HTTP URLs. -/
theorem exists_splitsAs {url : Url} (accepted : Url.parse input = .ok url) :
    ∃ authority path, SplitsAs input url.tls authority path := by
  unfold Url.parse at accepted
  split at accepted
  next => cases accepted
  next scheme rest cut =>
    split at accepted
    next => cases accepted
    next tls known =>
      split at accepted
      next => cases accepted
      next host port _ =>
        cases accepted
        obtain ⟨authority, path, rfl, noSlash, rooted⟩ := exists_authority rest
        refine ⟨authority, path, ?_, noSlash, rooted⟩
        rw [splitOnce_spec cut, (tlsOf_eq_some_iff scheme tls).mp known,
          ← String.append_assoc]

/-- The parts of a URL are determined. -/
theorem SplitsAs.unique {tls' : Bool} {authority' path' : String}
    (splits : SplitsAs input tls authority path) (splits' : SplitsAs input tls' authority' path') :
    tls = tls' ∧ authority = authority' := by
  have same := splits.cut.symm.trans splits'.cut
  rw [Option.some.injEq, Prod.mk.injEq] at same
  constructor
  · have known := (tlsOf_eq_some_iff _ tls).mpr same.1.symm
    rw [(tlsOf_eq_some_iff _ tls').mpr rfl, Option.some.injEq] at known
    exact known.symm
  · have parts := congrArg Url.splitPath same.2
    rw [splitPath_append splits.noSlash splits.rooted,
      splitPath_append splits'.noSlash splits'.rooted, Prod.mk.injEq] at parts
    exact parts.1

/-! ### Host and port -/

/-- The digits of a port number. -/
def IsPort (digits : String) : Prop := IsDigits digits ∧ decimalValue digits ≤ 65535

instance (digits : String) : Decidable (IsPort digits) :=
  inferInstanceAs (Decidable (IsDigits digits ∧ decimalValue digits ≤ 65535))

/-- The given port, or that of the scheme. -/
def portNumber (tls : Bool) : Option String → UInt16
  | none => Url.defaultPort tls
  | some digits => UInt16.ofNat (decimalValue digits)

theorem not_mem_of_isDigits {digits : String} (all : IsDigits digits) {c : Char}
    (other : ¬c.isDigit) : c ∉ digits.toList :=
  fun member => other (all.2 c member)

/-- `parse::<u16>` reads a port with or without a sign. -/
theorem parseU16_of_isPort {text digits : String} (spelled : text = digits ∨ text = "+" ++ digits)
    (port : IsPort digits) : parseU16 text = some (UInt16.ofNat (decimalValue digits)) := by
  refine (parseU16_eq_some_iff ..).mpr ⟨digits, spelled, port.1, ?_⟩
  have small : decimalValue digits < 65536 := by
    have bound := port.2
    omega
  rw [UInt16.toNat_ofNat', Nat.mod_eq_of_lt small]

theorem hostPort_of_no_colon (tls : Bool) {host : String} (noColon : ':' ∉ host.toList) :
    Url.hostPort tls host = some (host, Url.defaultPort tls) := by
  simp only [Url.hostPort, (rsplitOnce_eq_none_iff host ':').mpr noColon]

theorem rsplitOnce_port (host : String) {digits : String} (noColon : ':' ∉ digits.toList) :
    rsplitOnce (host ++ ":" ++ digits) ':' = some (host, digits) :=
  (rsplitOnce_eq_some_iff ..).mpr ⟨by simp, noColon⟩

/-- The port after the last colon is read, whatever the host. -/
theorem hostPort_of_port (tls : Bool) {host text digits : String} (nonempty : host ≠ "")
    (spelled : text = digits ∨ text = "+" ++ digits) (port : IsPort digits) :
    Url.hostPort tls (host ++ ":" ++ text) = some (host, UInt16.ofNat (decimalValue digits)) := by
  have noColon : ':' ∉ text.toList := by
    have absent : ':' ∉ digits.toList := not_mem_of_isDigits port.1 (by decide)
    rcases spelled with rfl | rfl
    · exact absent
    · simpa using absent
  simp only [Url.hostPort, rsplitOnce_port host noColon]
  rw [if_pos nonempty, parseU16_of_isPort spelled port]
  rfl

/-! ### Plain hosts and trailing slashes -/

theorem hostPort_recovers (tls : Bool) {host : String} {port : Option String} (nonempty : host ≠ "")
    (noColon : ':' ∉ host.toList) (digits : ∀ text ∈ port, IsPort text) :
    Url.hostPort tls (host ++ portSuffix port) = some (host, portNumber tls port) := by
  cases port with
  | none =>
    have whole : host ++ portSuffix none = host := String.append_empty
    rw [whole, hostPort_of_no_colon tls noColon]
    rfl
  | some text =>
    rw [portSuffix, ← String.append_assoc,
      hostPort_of_port tls nonempty (.inl rfl) (digits text rfl)]
    rfl

theorem slash_not_mem_portSuffix {port : Option String} (digits : ∀ text ∈ port, IsPort text) :
    '/' ∉ (portSuffix port).toList := by
  cases port with
  | none => simp [portSuffix]
  | some text =>
    have noSlash : '/' ∉ text.toList := not_mem_of_isDigits (digits text rfl).1 (by decide)
    simpa [portSuffix] using noSlash

theorem splitsAs_host (tls : Bool) {host : String} {port : Option String}
    (noSlash : '/' ∉ host.toList) (digits : ∀ text ∈ port, IsPort text) (rooted : Rooted path) :
    SplitsAs (schemeText tls ++ "://" ++ host ++ portSuffix port ++ path) tls
      (host ++ portSuffix port) path := by
  refine ⟨by simp only [String.append_assoc], ?_, rooted⟩
  rw [String.toList_append, List.mem_append, not_or]
  exact ⟨noSlash, slash_not_mem_portSuffix digits⟩

theorem rooted_withSlashes (rooted : Rooted path) (n : Nat) : Rooted (withSlashes path n) := by
  rcases rooted with rfl | head
  · cases n with
    | zero => exact .inl rfl
    | succ n =>
      right
      simp [withSlashes, List.replicate_succ]
  · right
    rw [withSlashes, String.toList_append, List.head?_append, head]
    rfl

/-- An absent path and `/` lead to the same request. -/
theorem trimEndMatches_path (path : String) :
    trimEndMatches (if path = "" then "/" else path) '/' = trimEndMatches path '/' := by
  split
  next empty =>
    rw [empty]
    decide
  next => rfl

/-- Slashes at the end of an accepted URL do not change where the credentials are posted. -/
theorem parse_withSlashes {url : Url} (accepted : Url.parse input = .ok url) (n : Nat) :
    ∃ url', Url.parse (withSlashes input n) = .ok url' ∧ url'.loginPost = url.loginPost := by
  obtain ⟨authority, path, splits⟩ := exists_splitsAs accepted
  have more : SplitsAs (withSlashes input n) url.tls authority (withSlashes path n) := by
    refine ⟨?_, splits.noSlash, rooted_withSlashes splits.rooted n⟩
    rw [withSlashes, splits.text, withSlashes, ← String.append_assoc]
  rw [splits.parse] at accepted
  rw [more.parse]
  cases read : Url.hostPort url.tls authority with
  | none =>
    rw [read] at accepted
    cases accepted
  | some parts =>
    rw [read] at accepted
    injection accepted with same
    refine ⟨_, rfl, ?_⟩
    -- the two URLs differ in their paths, and these are trimmed
    rw [← same]
    simp only [Url.loginPost, trimEndMatches_path]
    rw [withSlashes, trimEndMatches_append_replicate]

/-- So the login itself goes the same way. -/
theorem login_withSlashes (net : LoginNetwork) (cafile : Option UnixPath.AbsPath) {url : Url}
    (accepted : Url.parse input = .ok url) (n : Nat) :
    login net (withSlashes input n) cafile = login net input cafile := by
  obtain ⟨url', accepted', post⟩ := parse_withSlashes accepted n
  simp only [login, accepted, accepted', transient, post, bind, Except.bind]

/-- The parser gives back the parts of every HTTP URL with a plain host, and slashes at the end
of an accepted URL change nothing about the login. -/
theorem login_url_components :
    (∀ (tls : Bool) (host : String) (port : Option String) (path : String), host ≠ "" →
      '/' ∉ host.toList → ':' ∉ host.toList → (∀ digits ∈ port, IsPort digits) → Rooted path →
      Url.parse (schemeText tls ++ "://" ++ host ++ portSuffix port ++ path) =
        .ok { tls, host, port := portNumber tls port, path := if path = "" then "/" else path }) ∧
    ∀ (input : String) (url : Url), Url.parse input = .ok url → ∀ n,
      ∃ url', Url.parse (withSlashes input n) = .ok url' ∧ url'.tls = url.tls ∧
        url'.host = url.host ∧ url'.port = url.port ∧
        url'.loginPost.path = url.loginPost.path := by
  constructor
  · intro tls host port path nonempty noSlash noColon digits rooted
    rw [(splitsAs_host tls noSlash digits rooted).parse,
      hostPort_recovers tls nonempty noColon digits, Option.elim_some]
  · intro input url accepted n
    obtain ⟨url', accepted', post⟩ := parse_withSlashes accepted n
    exact ⟨url', accepted', congrArg LoginPost.tls post, congrArg LoginPost.host post,
      congrArg LoginPost.port post, congrArg LoginPost.path post⟩

theorem login_url_components_at_port :
    Url.parse ("https://gw.example:" ++ toString 8443 ++ "/hub") =
        .ok ⟨true, "gw.example", 8443, "/hub"⟩ ∧
      ∃ url', Url.parse (withSlashes "http://gw" 2) = .ok url' ∧ url'.host = "gw" ∧
        url'.loginPost.path = "/api/login" := by
  constructor
  · have port : IsPort (toString 8443) := by
      refine ⟨isDigits_toString 8443, ?_⟩
      rw [decimalValue_toString]
      decide
    have parsed := login_url_components.1 true "gw.example" (some (toString 8443)) "/hub" (by decide)
      (by decide) (by decide) (by rintro digits ⟨⟩; exact port) (by decide)
    rw [portNumber, decimalValue_toString] at parsed
    exact parsed
  · obtain ⟨url', parsed, _, host, _, path⟩ :=
      login_url_components.2 "http://gw" ⟨false, "gw", 80, "/"⟩ (by decide) 2
    exact ⟨url', parsed, host, path⟩

/-! ### The grammar -/

/-- A plain name, or an IPv6 literal in brackets. -/
def IsHost (host : String) : Prop :=
  host ≠ "" ∧ ((':' ∉ host.toList ∧ '/' ∉ host.toList) ∨ IsBracketed host)

/-- `host[:port]`. -/
def IsAuthority (authority : String) : Prop :=
  ∃ host port, IsHost host ∧ (∀ digits ∈ port, IsPort digits) ∧ authority = host ++ portSuffix port

/-- `scheme://host[:port][/path]`. -/
def InGrammar (input : String) : Prop :=
  ∃ tls host port path, IsHost host ∧ (∀ digits ∈ port, IsPort digits) ∧ Rooted path ∧
    input = schemeText tls ++ "://" ++ host ++ portSuffix port ++ path

/-- The parser accepts the input only in the grammar, and with an IPv6 literal it finds it. -/
def MeetsGrammar (input : String) : Prop :=
  ((∃ url, Url.parse input = .ok url) → InGrammar input) ∧
    ∀ tls v6 port path, isIpv6 v6 → (∀ digits ∈ port, IsPort digits) → Rooted path →
      input = schemeText tls ++ "://" ++ bracketed v6 ++ portSuffix port ++ path →
      ∃ url, Url.parse input = .ok url ∧ url.host = bracketed v6 ∧ url.port = portNumber tls port

/-- The authorities that are misread. -/
inductive Misread : String → Prop where
  | noHost : Misread ""
  /-- Nothing before the only colon. -/
  | portOnly (rest : String) (noColon : ':' ∉ rest.toList) : Misread (":" ++ rest)
  | signedPort (host digits : String) (nonempty : host ≠ "") (port : IsPort digits) :
      Misread (host ++ ":" ++ ("+" ++ digits))
  | colonInHost (host digits : String) (colon : ':' ∈ host.toList) (literal : ¬IsBracketed host)
      (port : IsPort digits) : Misread (host ++ ":" ++ digits)
  /-- An IPv6 literal without a port. -/
  | bareLiteral (v6 : String) (literal : isIpv6 v6) : Misread (bracketed v6)

theorem bracketed_ne_empty (v6 : String) : bracketed v6 ≠ "" := by
  simp [bracketed]

theorem slash_not_mem_bracketed {v6 : String} (literal : isIpv6 v6) :
    '/' ∉ (bracketed v6).toList := by
  have noSlash : '/' ∉ v6.toList := fun member =>
    absurd (isLiteralChar_of_isIpv6 literal '/' member) (by decide)
  simpa [bracketed] using noSlash

theorem IsHost.noSlash {host : String} (isHost : IsHost host) : '/' ∉ host.toList := by
  rcases isHost.2 with ⟨_, noSlash⟩ | ⟨v6, literal, rfl⟩
  · exact noSlash
  · exact slash_not_mem_bracketed literal

/-- The last colon of a literal is inside it. -/
theorem rsplitOnce_bracketed {v6 before after : String}
    (split : rsplitOnce (bracketed v6) ':' = some (before, after)) :
    before ≠ "" ∧ ']' ∈ after.toList := by
  obtain ⟨shape, _⟩ := (rsplitOnce_eq_some_iff ..).mp split
  constructor
  · rintro rfl
    simp [bracketed] at shape
  · have closes : (bracketed v6).toList = ('[' :: v6.toList) ++ [']'] := by simp [bracketed]
    have last := congrArg List.getLast? shape
    rw [closes, List.getLast?_concat, List.getLast?_append_cons, List.getLast?_cons] at last
    cases tail : after.toList.getLast? with
    | none =>
      rw [tail] at last
      cases last
    | some c =>
      rw [tail] at last
      cases last
      exact List.mem_of_getLast? tail

/-- So the rest of it is taken for a port and refused. -/
theorem hostPort_bracketed (tls : Bool) {v6 : String} (literal : isIpv6 v6) :
    Url.hostPort tls (bracketed v6) = none := by
  cases split : rsplitOnce (bracketed v6) ':' with
  | none =>
    rw [rsplitOnce_eq_none_iff] at split
    exact absurd (by simp [bracketed, colon_mem_of_isIpv6 literal]) split
  | some parts =>
    obtain ⟨before, after⟩ := parts
    obtain ⟨nonempty, bracket⟩ := rsplitOnce_bracketed split
    have refused : parseU16 after = none := by
      by_contra accepted
      obtain ⟨n, parsed⟩ := Option.ne_none_iff_exists'.mp accepted
      obtain ⟨digits, spelled, all, _⟩ := (parseU16_eq_some_iff ..).mp parsed
      have absent : ']' ∉ digits.toList := not_mem_of_isDigits all (by decide)
      rcases spelled with rfl | rfl
      · exact absent bracket
      · exact absent (by simpa using bracket)
    simp only [Url.hostPort, split]
    rw [if_pos nonempty, refused]
    rfl

/-- The last colon of an authority in the grammar is before its port or in its literal. -/
theorem IsAuthority.last_colon {authority before after : String} (isAuthority : IsAuthority authority)
    (split : rsplitOnce authority ':' = some (before, after)) :
    (IsHost before ∧ IsPort after) ∨ (before ≠ "" ∧ ']' ∈ after.toList) := by
  obtain ⟨host, port, isHost, digits, rfl⟩ := isAuthority
  cases port with
  | none =>
    have whole : host ++ portSuffix none = host := String.append_empty
    rw [whole] at split
    rcases isHost.2 with ⟨noColon, _⟩ | ⟨v6, _, rfl⟩
    · rw [(rsplitOnce_eq_none_iff host ':').mpr noColon] at split
      cases split
    · exact .inr (rsplitOnce_bracketed split)
  | some text =>
    have port := digits text rfl
    rw [portSuffix, ← String.append_assoc,
      rsplitOnce_port host (not_mem_of_isDigits port.1 (by decide))] at split
    cases split
    exact .inl ⟨isHost, port⟩

/-- What the grammar and the literals ask of one authority. -/
def AuthorityMeets (tls : Bool) (authority : String) : Prop :=
  (Url.hostPort tls authority ≠ none → IsAuthority authority) ∧
    ∀ v6 port, isIpv6 v6 → (∀ digits ∈ port, IsPort digits) →
      authority = bracketed v6 ++ portSuffix port →
      Url.hostPort tls authority = some (bracketed v6, portNumber tls port)

theorem not_authorityMeets_of_misread (tls : Bool) (misread : Misread authority) :
    ¬AuthorityMeets tls authority := by
  rintro ⟨sound, complete⟩
  cases misread with
  | noHost =>
    have accepted : Url.hostPort tls "" = some ("", Url.defaultPort tls) :=
      hostPort_of_no_colon tls (by decide)
    obtain ⟨host, port, isHost, _, same⟩ := sound (by simp [accepted])
    have lists := congrArg String.toList same
    rw [String.toList_append] at lists
    exact isHost.1 (String.toList_eq_nil_iff.mp (List.append_eq_nil_iff.mp lists.symm).1)
  | portOnly rest noColon =>
    have split : rsplitOnce (":" ++ rest) ':' = some ("", rest) :=
      (rsplitOnce_eq_some_iff ..).mpr ⟨by simp, noColon⟩
    have accepted : Url.hostPort tls (":" ++ rest) ≠ none := by
      simp [Url.hostPort, split]
    rcases (sound accepted).last_colon split with ⟨isHost, _⟩ | ⟨nonempty, _⟩
    · exact isHost.1 rfl
    · exact nonempty rfl
  | signedPort host digits nonempty port =>
    have accepted := hostPort_of_port tls nonempty (.inr rfl) port
    have noColon : ':' ∉ ("+" ++ digits).toList := by
      simpa using not_mem_of_isDigits port.1 (c := ':') (by decide)
    rcases (sound (by simp [accepted])).last_colon (rsplitOnce_port host noColon) with
      ⟨_, signed⟩ | ⟨_, bracket⟩
    · exact not_mem_of_isDigits signed.1 (c := '+') (by decide) (by simp)
    · exact not_mem_of_isDigits port.1 (c := ']') (by decide) (by simpa using bracket)
  | colonInHost host digits colon literal port =>
    have nonempty : host ≠ "" := by
      rintro rfl
      cases colon
    have accepted := hostPort_of_port tls nonempty (.inl rfl) port
    have noColon : ':' ∉ digits.toList := not_mem_of_isDigits port.1 (by decide)
    rcases (sound (by simp [accepted])).last_colon (rsplitOnce_port host noColon) with
      ⟨isHost, _⟩ | ⟨_, bracket⟩
    · rcases isHost.2 with ⟨noColon, _⟩ | inBrackets
      · exact noColon colon
      · exact literal inBrackets
    · exact not_mem_of_isDigits port.1 (c := ']') (by decide) bracket
  | bareLiteral v6 literal =>
    have found := complete v6 none literal (by rintro digits ⟨⟩) String.append_empty.symm
    rw [hostPort_bracketed tls literal] at found
    cases found

/-- An accepted authority that is not misread has the form of the grammar. -/
theorem isAuthority_of_accepted (noSlash : '/' ∉ authority.toList) (fine : ¬Misread authority)
    (accepted : Url.hostPort tls authority ≠ none) : IsAuthority authority := by
  cases split : rsplitOnce authority ':' with
  | none =>
    rw [rsplitOnce_eq_none_iff] at split
    have nonempty : authority ≠ "" := by
      rintro rfl
      exact fine .noHost
    exact ⟨authority, none, ⟨nonempty, .inl ⟨split, noSlash⟩⟩, by rintro digits ⟨⟩,
      String.append_empty.symm⟩
  | some parts =>
    obtain ⟨host, text⟩ := parts
    obtain ⟨shape, noColon⟩ := (rsplitOnce_eq_some_iff ..).mp split
    have whole : authority = host ++ ":" ++ text := by
      rw [← String.toList_inj, shape]
      simp
    rw [shape, List.mem_append, not_or] at noSlash
    have nonempty : host ≠ "" := by
      rintro rfl
      rw [whole, String.empty_append] at fine
      exact fine (.portOnly text noColon)
    simp only [Url.hostPort, split] at accepted
    rw [if_pos nonempty, ne_eq, Option.map_eq_none_iff] at accepted
    obtain ⟨n, parsed⟩ := Option.ne_none_iff_exists'.mp accepted
    obtain ⟨digits, spelled, all, value⟩ := (parseU16_eq_some_iff ..).mp parsed
    have port : IsPort digits := by
      have bound : n.toNat < 65536 := n.toNat_lt_size
      exact ⟨all, by omega⟩
    rcases spelled with rfl | rfl
    · refine ⟨host, some text, ⟨nonempty, ?_⟩, ?_, by rw [whole, portSuffix, String.append_assoc]⟩
      · by_cases colon : ':' ∈ host.toList
        · right
          by_contra literal
          rw [whole] at fine
          exact fine (.colonInHost host text colon literal port)
        · exact .inl ⟨colon, noSlash.1⟩
      · rintro digits ⟨⟩
        exact port
    · rw [whole] at fine
      exact absurd (.signedPort host digits nonempty port) fine

theorem authorityMeets_iff (tls : Bool) (noSlash : '/' ∉ authority.toList) :
    AuthorityMeets tls authority ↔ ¬Misread authority := by
  constructor
  · intro meets misread
    exact not_authorityMeets_of_misread tls misread meets
  · intro fine
    refine ⟨isAuthority_of_accepted noSlash fine, ?_⟩
    intro v6 port literal digits same
    cases port with
    | none =>
      rw [same, portSuffix, String.append_empty] at fine
      exact absurd (.bareLiteral v6 literal) fine
    | some text =>
      rw [same, portSuffix, ← String.append_assoc]
      exact hostPort_of_port tls (bracketed_ne_empty v6) (.inl rfl) (digits text rfl)

theorem meetsGrammar_iff_authority (splits : SplitsAs input tls authority path) :
    MeetsGrammar input ↔ AuthorityMeets tls authority := by
  have accepted : (∃ url, Url.parse input = .ok url) ↔ Url.hostPort tls authority ≠ none := by
    rw [splits.parse]
    cases Url.hostPort tls authority <;> simp
  have inGrammar : InGrammar input ↔ IsAuthority authority := by
    constructor
    · rintro ⟨tls', host, port, path', isHost, digits, rooted, rfl⟩
      obtain ⟨_, same⟩ := splits.unique (splitsAs_host tls' isHost.noSlash digits rooted)
      exact ⟨host, port, isHost, digits, same⟩
    · rintro ⟨host, port, isHost, digits, rfl⟩
      refine ⟨tls, host, port, path, isHost, digits, splits.rooted, ?_⟩
      rw [splits.text, ← String.append_assoc]
  unfold MeetsGrammar AuthorityMeets
  rw [accepted, inGrammar]
  apply and_congr_right
  intro _
  constructor
  · intro complete v6 port literal digits same
    have text := splits.text
    rw [same, ← String.append_assoc] at text
    obtain ⟨url, parsed, host, number⟩ := complete tls v6 port path literal digits splits.rooted text
    rw [splits.parse] at parsed
    cases read : Url.hostPort tls authority with
    | none =>
      rw [read] at parsed
      cases parsed
    | some parts =>
      rw [read] at parsed
      injection parsed with shape
      rw [← host, ← number, ← shape]
  · intro complete tls' v6 port path' literal digits rooted text
    have splits' := splitsAs_host tls' (slash_not_mem_bracketed literal) digits rooted
    rw [← text] at splits'
    obtain ⟨rfl, same⟩ := splits.unique splits'
    rw [splits.parse, complete v6 port literal digits same]
    exact ⟨_, rfl, rfl, rfl⟩

/-- The parser keeps to its grammar, IPv6 literals included, exactly on the inputs whose
authority is not misread. -/
theorem login_url_grammar_iff (input : String) :
    MeetsGrammar input ↔
      ∀ tls authority path, SplitsAs input tls authority path → ¬Misread authority := by
  constructor
  · intro meets tls authority path splits
    exact (authorityMeets_iff tls splits.noSlash).mp ((meetsGrammar_iff_authority splits).mp meets)
  · intro fine
    by_cases isUrl : ∃ tls authority path, SplitsAs input tls authority path
    · obtain ⟨tls, authority, path, splits⟩ := isUrl
      rw [meetsGrammar_iff_authority splits, authorityMeets_iff tls splits.noSlash]
      exact fine tls authority path splits
    · -- anything else is refused and has no literal
      constructor
      · rintro ⟨url, accepted⟩
        obtain ⟨authority, path, splits⟩ := exists_splitsAs accepted
        exact absurd ⟨url.tls, authority, path, splits⟩ isUrl
      · intro tls v6 port path literal digits rooted text
        have splits := splitsAs_host tls (slash_not_mem_bracketed literal) digits rooted
        rw [← text] at splits
        exact absurd ⟨tls, _, path, splits⟩ isUrl

/-- The loopback address is refused, and a URL without a host is accepted. -/
theorem bare_literal_refused :
    isIpv6 "::1" ∧ Url.parse "https://[::1]/" = .error "invalid port in 'https://[::1]/'" ∧
      Url.parse "http://:80" = .ok ⟨false, ":80", 80, "/"⟩ ∧ ¬MeetsGrammar "https://[::1]/" := by
  refine ⟨by decide, by decide, by decide, ?_⟩
  rintro ⟨_, complete⟩
  obtain ⟨url, accepted, _⟩ := complete true "::1" none "/" (by decide) (by rintro digits ⟨⟩)
    (by decide) (by decide)
  have refused : Url.parse "https://[::1]/" = .error "invalid port in 'https://[::1]/'" := by decide
  rw [refused] at accepted
  cases accepted

end Hamlet
