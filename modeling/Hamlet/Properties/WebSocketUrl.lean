import Hamlet.CloudGateway.Connection

/-!
# The address of a gateway's WebSocket

`compute_ws_url` trims the slashes at the end of a gateway URL, replaces the scheme and appends
`/ws`. Each of the three stages works on the whole text. As a normalisation this is harmless: the
result is a fixed point for every text. As a map of URLs it is not: the test for a final `/ws`
reaches into the authority.
-/

namespace Hamlet

open RustStr

/-- A gateway URL with slashes at its end. -/
def withSlashes (url : String) (n : Nat) : String :=
  url ++ String.ofList (List.replicate n '/')

/-! ### The stages -/

/-- The characters of a text that is not an HTTP URL. -/
def NotHttp (base : List Char) : Prop :=
  ¬"http://".toList <+: base ∧ ¬"https://".toList <+: base

/-- The second stage: `http` and `https` become `ws` and `wss`. -/
def wsScheme (base : List Char) : List Char :=
  if "https://".toList.isPrefixOf base then "wss://".toList ++ base.drop "https://".length
  else if "http://".toList.isPrefixOf base then "ws://".toList ++ base.drop "http://".length
  else base

/-- The third stage. -/
def withWs (base : List Char) : List Char :=
  if "/ws".toList.isSuffixOf base then base else base ++ "/ws".toList

theorem toList_computeWsUrl (url : String) :
    (computeWsUrl url).toList = withWs (wsScheme (url.toList.rdropWhile (· = '/'))) := by
  have staged : computeWsUrl url =
      if "/ws".toList.isSuffixOf (wsScheme (url.toList.rdropWhile (· = '/')))
      then String.ofList (wsScheme (url.toList.rdropWhile (· = '/')))
      else String.ofList (wsScheme (url.toList.rdropWhile (· = '/')) ++ "/ws".toList) := rfl
  rw [staged, withWs]
  split <;> rw [String.toList_ofList]

theorem computeWsUrl_withSlashes (url : String) (n : Nat) :
    computeWsUrl (withSlashes url n) = computeWsUrl url := by
  rw [← String.toList_inj, toList_computeWsUrl, toList_computeWsUrl, withSlashes,
    String.toList_append, String.toList_ofList, rdropWhile_append_replicate]

theorem withWs_of_suffix {base : List Char} (ends : "/ws".toList <:+ base) : withWs base = base := by
  rw [withWs, if_pos (List.isSuffixOf_iff_suffix.mpr ends)]

theorem suffix_withWs (base : List Char) : "/ws".toList <:+ withWs base := by
  unfold withWs
  split
  next ends => exact List.isSuffixOf_iff_suffix.mp ends
  next => exact List.suffix_append base _

theorem rdropWhile_of_suffix {base : List Char} (ends : "/ws".toList <:+ base) :
    base.rdropWhile (· = '/') = base := by
  obtain ⟨front, rfl⟩ := ends
  have shape : front ++ "/ws".toList = (front ++ ['/', 'w']) ++ ['s'] := by simp
  rw [shape, List.rdropWhile_concat_neg _ _ _ (by decide)]

theorem notHttp_of_head {base : List Char} (begins : base.head? = some 'w') : NotHttp base := by
  constructor
  · rintro ⟨rest, rfl⟩
    cases begins
  · rintro ⟨rest, rfl⟩
    cases begins

/-- The text has got a new scheme, or it had none to replace. -/
theorem wsScheme_cases (base : List Char) :
    (wsScheme base).head? = some 'w' ∨ (wsScheme base = base ∧ NotHttp base) := by
  unfold wsScheme
  split
  next => exact .inl rfl
  next notHttps =>
    split
    next => exact .inl rfl
    next notHttp =>
      rw [List.isPrefixOf_iff_prefix] at notHttps notHttp
      exact .inr ⟨rfl, notHttp, notHttps⟩

theorem wsScheme_of_notHttp {base : List Char} (not : NotHttp base) : wsScheme base = base := by
  rw [wsScheme, if_neg, if_neg]
  · rw [List.isPrefixOf_iff_prefix]
    exact not.1
  · rw [List.isPrefixOf_iff_prefix]
    exact not.2

/-- A scheme is not completed by `/ws`: a text that lacks only its last slash ends in one. -/
theorem prefix_of_prefix_append_ws (front : List Char) {base : List Char} (noW : 'w' ∉ front)
    (trimmed : base.getLast? ≠ some '/')
    (begins : front ++ ['/', '/'] <+: base ++ "/ws".toList) : front ++ ['/', '/'] <+: base := by
  rcases List.prefix_or_prefix_of_prefix begins (List.prefix_append base _) with done | ⟨mid, split⟩
  · exact done
  · obtain ⟨rest, whole⟩ := begins
    rw [← split, List.append_assoc, List.append_cancel_left_eq] at whole
    -- `mid` is what `/ws` would have to add
    match mid, whole with
    | [], _ => exact ⟨[], by simpa using split.symm⟩
    | [slash], whole =>
      have lacks : base = front ++ ['/'] := by
        have concat : base ++ [slash] = (front ++ ['/']) ++ ['/'] := by simpa using split
        exact (List.append_inj' concat rfl).1
      exact absurd (by simp [lacks]) trimmed
    | slash :: w :: mid, whole =>
      have second : w = 'w' := by
        have heads : slash :: w :: (mid ++ rest) = ['/', 'w', 's'] := by simpa using whole
        injection heads with _ heads
        injection heads
      have member : 'w' ∈ front ++ ['/', '/'] := by simp [← split, second]
      simp only [List.mem_append, List.mem_cons, List.not_mem_nil, or_false] at member
      rcases member with inFront | slash | slash
      · exact absurd inFront noW
      · cases slash
      · cases slash

theorem notHttp_withWs {base : List Char} (not : NotHttp base)
    (trimmed : base.getLast? ≠ some '/') : NotHttp (withWs base) := by
  unfold withWs
  split
  next => exact not
  next =>
    constructor
    · intro begins
      exact not.1 (prefix_of_prefix_append_ws "http:".toList (by decide) trimmed begins)
    · intro begins
      exact not.2 (prefix_of_prefix_append_ws "https:".toList (by decide) trimmed begins)

theorem getLast?_rdropWhile (cs : List Char) : (cs.rdropWhile (· = '/')).getLast? ≠ some '/' := by
  intro last
  have nonempty : cs.rdropWhile (· = '/') ≠ [] := by
    intro empty
    rw [empty] at last
    cases last
  rw [List.getLast?_eq_some_getLast nonempty, Option.some.injEq] at last
  have stops := List.rdropWhile_last_not (· = '/') cs nonempty
  simp [last] at stops

theorem notHttp_computeWsUrl (url : String) : NotHttp (computeWsUrl url).toList := by
  rw [toList_computeWsUrl]
  rcases wsScheme_cases (url.toList.rdropWhile (· = '/')) with replaced | ⟨same, not⟩
  · apply notHttp_of_head
    unfold withWs
    split
    · exact replaced
    · rw [List.head?_append, replaced]
      rfl
  · rw [same]
    exact notHttp_withWs not (getLast?_rdropWhile url.toList)

/-- The computed address is a fixed point, one more slash at the end of the URL changes nothing,
and no HTTP scheme is left. -/
theorem ws_url_normalised (url : String) :
    computeWsUrl (computeWsUrl url) = computeWsUrl url ∧
      computeWsUrl (url ++ "/") = computeWsUrl url ∧
      ¬"http://".toList <+: (computeWsUrl url).toList ∧
      ¬"https://".toList <+: (computeWsUrl url).toList := by
  have ends : "/ws".toList <:+ (computeWsUrl url).toList := by
    rw [toList_computeWsUrl]
    exact suffix_withWs _
  refine ⟨?_, computeWsUrl_withSlashes url 1, notHttp_computeWsUrl url⟩
  rw [← String.toList_inj, toList_computeWsUrl (computeWsUrl url), rdropWhile_of_suffix ends,
    wsScheme_of_notHttp (notHttp_computeWsUrl url), withWs_of_suffix ends]

/-! ### Authority and path -/

/-- The path of a URL: empty, or with a slash in front. -/
def Rooted (path : String) : Prop := path = "" ∨ path.toList.head? = some '/'

instance (path : String) : Decidable (Rooted path) :=
  inferInstanceAs (Decidable (path = "" ∨ path.toList.head? = some '/'))

/-- The path of the WebSocket of a gateway whose base URL has this path. -/
def wsPath (path : String) : String :=
  let trimmed := trimEndMatches path '/'
  if "/ws".toList <:+ trimmed.toList then trimmed else trimmed ++ "/ws"

/-- A text ends in `/ws` exactly when its last segment is `ws`. -/
theorem ws_suffix_iff (front last : List Char) (noSlash : '/' ∉ last) :
    "/ws".toList <:+ front ++ '/' :: last ↔ last = "ws".toList := by
  constructor
  · rintro ⟨before, same⟩
    -- both are the split at the last slash
    have found : rsplitOnce (String.ofList (front ++ '/' :: last)) '/' =
        some (String.ofList front, String.ofList last) :=
      (rsplitOnce_eq_some_iff ..).mpr ⟨by simp, by simpa using noSlash⟩
    have found' : rsplitOnce (String.ofList (front ++ '/' :: last)) '/' =
        some (String.ofList before, "ws") :=
      (rsplitOnce_eq_some_iff ..).mpr ⟨by simpa using same.symm, by decide⟩
    rw [found, Option.some.injEq, Prod.mk.injEq] at found'
    rw [← found'.2, String.toList_ofList]
  · rintro rfl
    exact List.suffix_append front _

/-- Where a path is left, the test for `/ws` reads only the path; without one it reads the
authority. -/
theorem ws_suffix_append_iff (front authority path : List Char) (noSlash : '/' ∉ authority)
    (rooted : path = [] ∨ path.head? = some '/') :
    "/ws".toList <:+ front ++ '/' :: authority ++ path ↔
      "/ws".toList <:+ path ∨ (path = [] ∧ authority = "ws".toList) := by
  rcases rooted with rfl | head
  · rw [List.append_nil, ws_suffix_iff front authority noSlash]
    simp
  · have member : '/' ∈ (String.ofList path).toList := by
      rw [String.toList_ofList]
      exact List.mem_of_mem_head? head
    obtain ⟨⟨before, last⟩, split⟩ : ∃ parts, rsplitOnce (String.ofList path) '/' = some parts := by
      rw [← Option.ne_none_iff_exists', ne_eq, rsplitOnce_eq_none_iff, not_not]
      exact member
    obtain ⟨shape, noSlash'⟩ := (rsplitOnce_eq_some_iff ..).mp split
    rw [String.toList_ofList] at shape
    rw [shape, ← List.append_assoc, ws_suffix_iff _ _ noSlash', ws_suffix_iff _ _ noSlash']
    simp

theorem rooted_rdropWhile {path : String} (rooted : Rooted path) :
    path.toList.rdropWhile (· = '/') = [] ∨
      (path.toList.rdropWhile (· = '/')).head? = some '/' := by
  obtain ⟨rest, whole⟩ := path.toList.rdropWhile_prefix (· = '/')
  cases shape : path.toList.rdropWhile (· = '/') with
  | nil => exact .inl rfl
  | cons c cs =>
    right
    rw [shape] at whole
    rcases rooted with rfl | head
    · cases whole
    · rw [← whole] at head
      exact head

theorem toList_wsPath (path : String) :
    (wsPath path).toList = withWs (path.toList.rdropWhile (· = '/')) := by
  simp only [wsPath, withWs, trimEndMatches, String.toList_ofList, List.isSuffixOf_iff_suffix]
  split
  · rw [String.toList_ofList]
  · rw [String.toList_append, String.toList_ofList]

/-- One of the two schemes, `old`, and what replaces it. -/
theorem computeWsUrl_scheme_iff (old new : String) (front : List Char)
    (replaced : ∀ rest, wsScheme (old.toList ++ rest) = new.toList ++ rest)
    (slash : new.toList = front ++ ['/']) (authority path : String) (nonempty : authority ≠ "")
    (noSlash : '/' ∉ authority.toList) (rooted : Rooted path) :
    computeWsUrl (old ++ authority ++ path) = new ++ authority ++ wsPath path ↔
      (authority = "ws" → ∃ c ∈ path.toList, c ≠ '/') := by
  -- the authority is not empty, so trimming stops before the scheme
  have stays : ∀ last ∈ (old.toList ++ authority.toList).getLast?, ¬decide (last = '/') := by
    intro last isLast
    have nonempty' : authority.toList ≠ [] := by simpa using nonempty
    rw [List.getLast?_append_of_ne_nil _ nonempty'] at isLast
    simpa using ne_of_mem_of_not_mem (List.mem_of_getLast? isLast) noSlash
  have computed : (computeWsUrl (old ++ authority ++ path)).toList =
      withWs (new.toList ++ authority.toList ++ path.toList.rdropWhile (· = '/')) := by
    rw [toList_computeWsUrl, String.toList_append, String.toList_append,
      rdropWhile_append _ _ _ stays, List.append_assoc, replaced, List.append_assoc]
  have suffix := ws_suffix_append_iff front authority.toList _ noSlash (rooted_rdropWhile rooted)
  have onlySlashes : path.toList.rdropWhile (· = '/') = [] ↔ ∀ c ∈ path.toList, c = '/' := by
    simp [List.rdropWhile_eq_nil_iff]
  rw [List.append_cons, ← slash] at suffix
  rw [← String.toList_inj, computed, String.toList_append, String.toList_append, toList_wsPath]
  generalize path.toList.rdropWhile (· = '/') = trimmed at suffix onlySlashes ⊢
  by_cases inPath : "/ws".toList <:+ trimmed
  · rw [withWs_of_suffix inPath, withWs_of_suffix (suffix.mpr (.inl inPath))]
    refine iff_of_true rfl fun _ => ?_
    by_contra! slashes
    rw [onlySlashes.mpr slashes] at inPath
    cases List.suffix_nil.mp inPath
  · have appended : withWs trimmed = trimmed ++ "/ws".toList := by
      rw [withWs, if_neg (by rwa [List.isSuffixOf_iff_suffix])]
    by_cases inAuthority : trimmed = [] ∧ authority.toList = "ws".toList
    · -- the authority is taken for the path
      obtain ⟨empty, same⟩ := inAuthority
      rw [withWs_of_suffix (suffix.mpr (.inr ⟨empty, same⟩)), appended]
      refine iff_of_false (by simp) ?_
      intro more
      obtain ⟨c, member, other⟩ := more (String.toList_inj.mp same)
      exact other (onlySlashes.mp empty c member)
    · have notYet : ¬"/ws".toList <:+ new.toList ++ authority.toList ++ trimmed := by
        rw [suffix]
        exact not_or.mpr ⟨inPath, inAuthority⟩
      rw [appended, withWs, if_neg (by rwa [List.isSuffixOf_iff_suffix])]
      refine iff_of_true (List.append_assoc ..) fun isWs => ?_
      by_contra! slashes
      exact inAuthority ⟨onlySlashes.mpr slashes, congrArg String.toList isWs⟩

theorem wsScheme_https (rest : List Char) :
    wsScheme ("https://".toList ++ rest) = "wss://".toList ++ rest := by
  rw [wsScheme, if_pos (List.isPrefixOf_iff_prefix.mpr (List.prefix_append _ _))]
  rfl

theorem wsScheme_http (rest : List Char) :
    wsScheme ("http://".toList ++ rest) = "ws://".toList ++ rest := by
  rw [wsScheme, if_neg, if_pos (List.isPrefixOf_iff_prefix.mpr (List.prefix_append _ _))]
  · rfl
  · rw [List.isPrefixOf_iff_prefix]
    simp

/-- The authority is kept and the path gets its `/ws`, except that the authority `ws` without
a path already passes for one. -/
theorem ws_endpoint_iff (authority path : String) (nonempty : authority ≠ "")
    (noSlash : '/' ∉ authority.toList) (rooted : Rooted path) :
    (computeWsUrl ("https://" ++ authority ++ path) = "wss://" ++ authority ++ wsPath path ∧
      computeWsUrl ("http://" ++ authority ++ path) = "ws://" ++ authority ++ wsPath path) ↔
    (authority = "ws" → ∃ c ∈ path.toList, c ≠ '/') := by
  rw [computeWsUrl_scheme_iff "https://" "wss://" "wss:/".toList wsScheme_https (by decide)
      authority path nonempty noSlash rooted,
    computeWsUrl_scheme_iff "http://" "ws://" "ws:/".toList wsScheme_http (by decide)
      authority path nonempty noSlash rooted, and_self]

theorem ws_endpoint_of_path :
    computeWsUrl "https://ws/hub/" = "wss://ws/hub/ws" ∧
      computeWsUrl "http://ws/hub/" = "ws://ws/hub/ws" :=
  (ws_endpoint_iff "ws" "/hub/" (by decide) (by decide) (by decide)).mpr
    fun _ => ⟨'h', by decide, by decide⟩

/-- A gateway at the host `ws` is dialled without a path. -/
theorem ws_host_has_no_path :
    "ws" ≠ "" ∧ '/' ∉ "ws".toList ∧ Rooted "" ∧
      computeWsUrl ("https://" ++ "ws" ++ "") = "wss://ws" ∧
      "wss://" ++ "ws" ++ wsPath "" = "wss://ws/ws" ∧
      computeWsUrl ("https://" ++ "ws" ++ "") ≠ "wss://" ++ "ws" ++ wsPath "" := by
  decide

end Hamlet
