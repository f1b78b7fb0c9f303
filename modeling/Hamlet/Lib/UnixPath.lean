import Mathlib.Data.List.DropRight

/-!
# Absolute Unix paths

An absolute path is kept as the text between its separators: `/a//b` has the
segments `a`, the empty text and `b`, and the root `/` has one empty segment.
`join` and `parent` follow `std::path::Path`, which leaves `..` alone; `resolve`
is the directory walk of a file system without symbolic links.
-/

namespace UnixPath

/-- The text between the separators. -/
def segmentsOf (cs : List Char) : List String :=
  (cs.splitOn '/').map String.ofList

theorem slash_notMem_splitOn (cs : List Char) : ∀ part ∈ cs.splitOn '/', '/' ∉ part := by
  induction cs with
  | nil => simp
  | cons c cs ih =>
    rw [List.splitOn_cons_eq_if_modifyHead]
    split
    next => simpa using ih
    next other =>
      obtain ⟨first, rest, split⟩ := List.exists_cons_of_ne_nil (List.splitOn_ne_nil '/' cs)
      rw [split] at ih ⊢
      simp only [List.modifyHead_cons, List.mem_cons, forall_eq_or_imp] at ih ⊢
      refine ⟨?_, ih.2⟩
      rintro (here | later)
      · simp [← here] at other
      · exact ih.1 later

theorem slash_notMem_segmentsOf (cs : List Char) : ∀ s ∈ segmentsOf cs, '/' ∉ s.toList := by
  intro s member
  obtain ⟨part, found, rfl⟩ := List.mem_map.mp member
  simpa using slash_notMem_splitOn cs part found

/-- An absolute path. No segment can hide a separator. -/
structure AbsPath where
  segments : List String
  noSlash : ∀ s ∈ segments, '/' ∉ s.toList
  deriving DecidableEq

namespace AbsPath

/-- The path whose text is `/` followed by `cs`. -/
def ofRest (cs : List Char) : AbsPath := ⟨segmentsOf cs, slash_notMem_segmentsOf cs⟩

/-- `Path::display`. -/
def display (p : AbsPath) : String := "/" ++ "/".intercalate p.segments

/-- The segments a pushed text is appended to: a final separator is not doubled. -/
def base (p : AbsPath) : List String :=
  if p.segments.getLast? = some "" then p.segments.dropLast else p.segments

/-- `Path::join`: an absolute argument replaces the path. -/
def join (p : AbsPath) (arg : String) : AbsPath :=
  match arg.toList with
  | '/' :: rest => ofRest rest
  | cs => ⟨p.base ++ segmentsOf cs, by
      intro s member
      rcases List.mem_append.mp member with old | new
      · refine p.noSlash s ?_
        unfold base at old
        split at old
        · exact List.dropLast_subset _ old
        · exact old
      · exact slash_notMem_segmentsOf cs s new⟩

/-- Empty and `.` segments are not components of a path. -/
def skipped (s : String) : Bool := s == "" || s == "."

/-- `Path::parent`: `none` exactly for a spelling of the root. -/
def parent (p : AbsPath) : Option AbsPath :=
  -- trailing separators and dots do not count as a component
  let body := p.segments.rdropWhile skipped
  if body = [] then none
  else
    let dir := body.dropLast.rdropWhile skipped
    if dir = [] then some (ofRest [])
    else some ⟨dir, fun s member => p.noSlash s
      ((List.rdropWhile_prefix _ _).subset
        (List.dropLast_subset _ ((List.rdropWhile_prefix _ _).subset member)))⟩

/-- Follow one segment from a directory. -/
def enter (dir : List String) (s : String) : List String :=
  if skipped s then dir else if s = ".." then dir.dropLast else dir ++ [s]

/-- The location a path denotes, as the names from the root down. -/
def resolve (p : AbsPath) : List String := p.segments.foldl enter []

example : ((ofRest "srv/certs/".toList).join "../a.crt").resolve = ["srv", "a.crt"] := by decide

/-- A plain name below a path has a parent. -/
theorem parent_join_name (p : AbsPath) (name : String) (noSlash : '/' ∉ name.toList)
    (plain : skipped name = false) : (p.join name).parent.isSome := by
  have segments : (p.join name).segments = p.base ++ [name] := by
    unfold join
    split
    next rest abs => simp [abs] at noSlash
    next => simp [segmentsOf, List.splitOn_eq_singleton noSlash]
  have body : (p.join name).segments.rdropWhile skipped = p.base ++ [name] := by
    rw [segments, List.rdropWhile_concat_neg _ _ _ (by simp [plain])]
  unfold parent
  simp only [body]
  rw [if_neg (by simp)]
  split <;> rfl

/-! ### Where a joined path leads -/

/-- Follow a relative text from a directory. -/
def walk (dir : List String) (cs : List Char) : List String := (segmentsOf cs).foldl enter dir

@[simp] theorem enter_empty (dir : List String) : enter dir "" = dir := rfl

theorem enter_name (dir : List String) (name : String) (plain : skipped name = false)
    (notUp : name ≠ "..") : enter dir name = dir ++ [name] := by
  simp [enter, plain, notUp]

@[simp] theorem walk_nil (dir : List String) : walk dir [] = dir := rfl

/-- A final separator of the base does not change where it leads. -/
theorem foldl_base (p : AbsPath) : p.base.foldl enter [] = p.resolve := by
  unfold base resolve
  split
  next last =>
    obtain ⟨front, split⟩ := List.getLast?_eq_some_iff.mp last
    simp [split]
  next => rfl

theorem resolve_join_rel (p : AbsPath) (arg : String) (rel : arg.toList.head? ≠ some '/') :
    (p.join arg).resolve = walk p.resolve arg.toList := by
  unfold join
  split
  next rest abs => simp [abs] at rel
  next => rw [← foldl_base p, resolve, List.foldl_append, walk]

theorem resolve_join_abs (p : AbsPath) (arg : String) (rest : List Char)
    (abs : arg.toList = '/' :: rest) : (p.join arg).resolve = walk [] rest := by
  simp only [join, abs]
  rfl

/-- Directory texts are empty or end in a separator; a plain name after one adds
exactly one level. -/
theorem walk_append (dir : List String) (cs : List Char) (name : String)
    (ends : cs = [] ∨ ∃ front, cs = front ++ ['/']) (noSlash : '/' ∉ name.toList)
    (plain : skipped name = false) (notUp : name ≠ "..") :
    walk dir (cs ++ name.toList) = walk dir cs ++ [name] := by
  have alone : segmentsOf name.toList = [name] := by
    simp [segmentsOf, List.splitOn_eq_singleton noSlash]
  rcases ends with rfl | ⟨front, rfl⟩
  · rw [List.nil_append, walk_nil]
    simp [walk, alone, enter_name dir name plain notUp]
  · have split (tail : List Char) :
        segmentsOf (front ++ '/' :: tail) = segmentsOf front ++ segmentsOf tail := by
      simp [segmentsOf, List.splitOn_append_cons_self]
    have whole : walk dir (front ++ '/' :: name.toList) = walk dir front ++ [name] := by
      simp only [walk, split, List.foldl_append, alone, List.foldl_cons, List.foldl_nil,
        enter_name _ name plain notUp]
    have closed : walk dir (front ++ ['/']) = walk dir front := by
      simp only [walk, split, List.foldl_append]
      rfl
    rw [List.append_assoc, List.singleton_append, whole, closed]

/-- Joining `dir ++ name` leads one level below where joining `dir` leads. -/
theorem resolve_join_append (p : AbsPath) (dir name : String)
    (ends : dir.toList = [] ∨ ∃ front, dir.toList = front ++ ['/'])
    (noSlash : '/' ∉ name.toList) (plain : skipped name = false) (notUp : name ≠ "..") :
    (p.join (dir ++ name)).resolve = (p.join dir).resolve ++ [name] := by
  cases chars : dir.toList with
  | nil =>
    -- the name alone is relative
    have rel : (dir ++ name).toList.head? ≠ some '/' := by
      rw [String.toList_append, chars, List.nil_append]
      intro first
      exact noSlash (List.mem_of_mem_head? (by simpa using first))
    rw [resolve_join_rel p _ rel, resolve_join_rel p dir (by simp [chars]),
      String.toList_append, walk_append _ _ _ ends noSlash plain notUp]
  | cons c cs =>
    by_cases slash : c = '/'
    · -- absolute: the base is replaced in both joins
      subst slash
      have ends' : cs = [] ∨ ∃ front, cs = front ++ ['/'] := by
        rcases ends with empty | ⟨front, whole⟩
        · simp [chars] at empty
        · cases front with
          | nil => left; simpa [chars] using whole
          | cons d front =>
            right
            have tails : cs = front ++ ['/'] := by
              simpa [chars] using congrArg List.tail whole
            exact ⟨front, tails⟩
      have abs : (dir ++ name).toList = '/' :: (cs ++ name.toList) := by
        rw [String.toList_append, chars, List.cons_append]
      rw [resolve_join_abs p _ _ abs, resolve_join_abs p dir cs chars,
        walk_append _ _ _ ends' noSlash plain notUp]
    · -- relative: both joins start from the base
      have rel : (dir ++ name).toList.head? ≠ some '/' := by
        simp [String.toList_append, chars, slash]
      rw [resolve_join_rel p _ rel, resolve_join_rel p dir (by simp [chars, slash]),
        String.toList_append, walk_append _ _ _ ends noSlash plain notUp]

end AbsPath

end UnixPath
