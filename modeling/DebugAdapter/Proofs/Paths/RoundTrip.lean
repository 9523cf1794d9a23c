import DebugAdapter.Proofs.Paths.Escapes

/-!
# File URLs read back

The URL of an absolute path leads to that path, as long as no name in it steps upwards or to
itself, or could be part of a drive (`ofFileUrl?_toFileUrl?`). All other characters are free:
what has a meaning in a URL, and a percent sign too, is escaped when it is written.
-/

namespace DebugAdapter.Paths

/-- A name that a path can go through: it is no step, and no drive starts or ends in it. -/
structure IsName (name : List Char) : Prop where
  nonempty : name ≠ []
  slash : '/' ∉ name
  step : name ≠ ['.'] ∧ name ≠ ['.', '.']
  drive : ':' ∉ name ∧ '|' ∉ name

def through (names : List (List Char)) : List Char := names.flatMap ('/' :: ·)

def escapedThrough (names : List (List Char)) : List Char := through (names.map escapeSegment)

-- ---------------------------------------------------------------------------
-- Components
-- ---------------------------------------------------------------------------

theorem splitSlashes_append {cs rest : List Char} (slash : '/' ∉ cs)
    (split : splitSlashes rest = piece :: pieces) :
    splitSlashes (cs ++ rest) = (cs ++ piece) :: pieces := by
  induction cs with
  | nil => exact split
  | cons c cs ih =>
    obtain ⟨other, others⟩ := not_or.mp (mt List.mem_cons.mpr slash)
    rw [List.cons_append, splitSlashes, if_neg (Ne.symm other), ih others]
    rfl

theorem splitSlashes_through {names : List (List Char)} (slash : ∀ n ∈ names, '/' ∉ n) :
    splitSlashes (through names) = [] :: names := by
  induction names with
  | nil => rfl
  | cons n names ih =>
    obtain ⟨first, others⟩ := List.forall_mem_cons.mp slash
    have rest := splitSlashes_append first (ih others)
    rw [List.append_nil] at rest
    show splitSlashes ('/' :: (n ++ through names)) = _
    rw [splitSlashes, if_pos rfl, rest]

theorem components_through {names : List (List Char)} (named : ∀ n ∈ names, IsName n) :
    components (through names) = names := by
  rw [components, splitSlashes_through fun n mem => (named n mem).slash]
  refine (List.filter_cons_of_neg (by simp)).trans (List.filter_eq_self.mpr fun n mem => ?_)
  simp [(named n mem).nonempty, (named n mem).step.1]

theorem toFileUrl?_through {names : List (List Char)} (some : names ≠ [])
    (named : ∀ n ∈ names, IsName n) :
    toFileUrl? (String.ofList (through names)) =
      .some ("file://" ++ String.ofList (escapedThrough names)) := by
  obtain ⟨n, rest, rfl⟩ := List.exists_cons_of_ne_nil some
  have absolute : isAbsolute (through (n :: rest)) = true := rfl
  rw [toFileUrl?, String.toList_ofList, if_pos absolute, urlPath, components_through named]
  simp only [escapedThrough, through, List.flatMap_map]

-- ---------------------------------------------------------------------------
-- Walking through the names
-- ---------------------------------------------------------------------------

structure IsSegment (segment : List Char) : Prop where
  nonempty : segment ≠ []
  plain : ∀ c ∈ segment, InSegment c
  still : resolveDots segment = segment
  step : segment ≠ ['.'] ∧ segment ≠ ['.', '.']

theorem IsName.isSegment {name : List Char} (h : IsName name) :
    IsSegment (escapeSegment name) where
  nonempty none :=
    h.nonempty (escapeSegment_inj.mp (none.trans (by decide : [] = escapeSegment [])))
  plain := inSegment_escapeSegment name
  still := resolveDots_escapeSegment name
  step := ⟨fun dot => h.step.1 (escapeSegment_inj.mp (dot.trans (by decide : _ = escapeSegment _))),
    fun dots => h.step.2 (escapeSegment_inj.mp (dots.trans (by decide : _ = escapeSegment _)))⟩

theorem InSegment.read {c : Char} (h : InSegment c) :
    isBreak c = false ∧ isSlash .file c = false ∧ (c = '?' || c = '#') = false := by
  obtain ⟨visible, ascii, ⟨slash, back⟩, mark, hash⟩ := h
  have apart (d : Char) (low : d.toNat ≤ 0x20) : c ≠ d := by
    rintro rfl
    omega
  have tab := apart '\t' (by decide)
  have feed := apart '\n' (by decide)
  have back := apart '\r' (by decide)
  simp_all [isBreak, isSlash]

/-- A path that is read of a file starts with two slashes, so no drive is at its start. -/
def Reading.Rooted (r : Reading) : Prop := ∃ rest, r.path = '/' :: '/' :: rest

theorem not_isNormalDriveLetter (cs : List Char) : isNormalDriveLetter ('/' :: cs) = false := by
  unfold isNormalDriveLetter
  split
  · rename_i same
    cases same
    rfl
  · rfl

theorem Reading.walk_segment {r : Reading} (rooted : r.Rooted) {segment : List Char}
    (plain : ∀ c ∈ segment, InSegment c) (recent rest : List Char) :
    r.walk .file ⟨[], recent⟩ (segment ++ rest) =
      r.walk .file ⟨[], segment.reverse ++ recent⟩ rest := by
  induction segment generalizing recent with
  | nil => rfl
  | cons c segment ih =>
    obtain ⟨first, others⟩ := List.forall_mem_cons.mp plain
    obtain ⟨noBreak, noSlash, noMark⟩ := first.read
    obtain ⟨path, at_root⟩ := rooted
    have pushed : r.push .file ⟨[], recent⟩ c = (r, ⟨[], c :: recent⟩) := by
      simp [push, at_root, not_isNormalDriveLetter]
    rw [List.cons_append, walk]
    simp only [noBreak, noSlash, noMark, pushed, Bool.false_eq_true, if_false]
    rw [ih others, List.reverse_cons, List.append_assoc]
    rfl

theorem Reading.add_segment {r : Reading} (rooted : r.Rooted) {segment : List Char}
    (h : IsSegment segment) (slash : Bool) :
    r.add .file segment slash =
      { r with path := r.path ++ segment ++ if slash then ['/'] else [] } := by
  obtain ⟨path, at_root⟩ := rooted
  unfold add
  rw [h.still, if_neg h.step.2, if_neg h.step.1, if_neg (by simp [at_root])]
  cases slash <;> simp

theorem Reading.walk_through {r : Reading} (rooted : r.Rooted) {first : List Char}
    {others : List (List Char)} (plain : ∀ s ∈ first :: others, IsSegment s) :
    r.walk .file .empty (first ++ through others) =
      { r with path := r.path ++ first ++ through others } := by
  obtain ⟨here, later⟩ := List.forall_mem_cons.mp plain
  induction others generalizing r first with
  | nil =>
    rw [OpenSegment.empty, walk_segment rooted here.plain]
    simp only [through, List.flatMap_nil, walk, OpenSegment.chars, List.append_nil,
      List.nil_append, List.reverse_reverse]
    rw [add_segment rooted here]
    simp
  | cons next others ih =>
    have slashed : Rooted { r with path := r.path ++ first ++ ['/'] } := by
      obtain ⟨path, at_root⟩ := rooted
      exact ⟨path ++ first ++ ['/'], by simp [at_root]⟩
    obtain ⟨nextPlain, othersPlain⟩ := List.forall_mem_cons.mp later
    have added : r.add .file first true = { r with path := r.path ++ first ++ ['/'] } :=
      add_segment rooted here true
    show r.walk .file ⟨[], []⟩ (first ++ '/' :: (next ++ through others)) = _
    rw [walk_segment rooted here.plain, walk]
    simp only [show isBreak '/' = false from rfl, show isSlash .file '/' = true from rfl,
      Bool.false_eq_true, if_false, if_true, OpenSegment.chars, List.append_nil, List.nil_append,
      List.reverse_reverse, added]
    rw [ih slashed later nextPlain othersPlain]
    simp [through]

-- ---------------------------------------------------------------------------
-- Whole URLs
-- ---------------------------------------------------------------------------

theorem trimmed_of_visible {url : List Char} (visible : ∀ c ∈ url, 0x20 < c.toNat) :
    trimmed url = url := by
  have kept (cs : List Char) (h : ∀ c ∈ cs, 0x20 < c.toNat) :
      cs.dropWhile (fun c => decide (c.toNat ≤ 0x20)) = cs := by
    cases cs with
    | nil => rfl
    | cons c cs => exact List.dropWhile_cons_of_neg (by simpa using h c List.mem_cons_self)
  simp only [trimmed]
  rw [kept url visible, kept _ fun c mem => visible c (List.mem_reverse.mp mem),
    List.reverse_reverse]

theorem go_length {front : List Char} (whole : ∀ c ∈ front, isBreak c = false)
    (rest : List Char) : suffixOf.go front.length (front ++ rest) = rest := by
  induction front with
  | nil => cases rest <;> rfl
  | cons c front ih =>
    obtain ⟨first, others⟩ := List.forall_mem_cons.mp whole
    rw [List.cons_append, List.length_cons, suffixOf.go]
    simp only [first, Bool.false_eq_true, if_false]
    exact ih others

theorem suffixOf_append {front rest : List Char}
    (whole : ∀ c ∈ front ++ rest, isBreak c = false) :
    suffixOf rest.length (front ++ rest) = rest := by
  have all : (front ++ rest).countP (!isBreak ·) = front.length + rest.length := by
    rw [List.countP_eq_length.mpr fun c mem => by rw [whole c mem]; rfl, List.length_append]
  rw [suffixOf, all, Nat.add_sub_cancel]
  exact go_length (List.forall_mem_append.mp whole).1 rest

theorem pathStart?_file (path : List Char) :
    pathStart? ("file://".toList ++ '/' :: path) = some ⟨.file, .absent, ['/'], '/' :: path⟩ := by
  have scheme : splitScheme? ("file://".toList ++ '/' :: path) =
      some ("file".toList, '/' :: '/' :: '/' :: path) := by
    rfl
  have kind : SchemeKind.of "file".toList = .file := rfl
  simp only [pathStart?, scheme, Option.bind_eq_bind, Option.bind_some, kind]
  rfl

theorem readUrl?_escapedThrough {names : List (List Char)} (some : names ≠ [])
    (named : ∀ n ∈ names, IsName n) :
    readUrl? ("file://".toList ++ escapedThrough names) =
      .some ⟨.absent, escapedThrough names⟩ := by
  obtain ⟨first, others, rfl⟩ := List.exists_cons_of_ne_nil some
  have plain : ∀ s ∈ (first :: others).map escapeSegment, IsSegment s := by
    intro s mem
    obtain ⟨n, listed, rfl⟩ := List.mem_map.mp mem
    exact (named n listed).isSegment
  have path : escapedThrough (first :: others) =
      '/' :: (escapeSegment first ++ through (others.map escapeSegment)) := rfl
  have visible : ∀ c ∈ "file://".toList ++ escapedThrough (first :: others),
      0x20 < c.toNat ∧ isBreak c = false := by
    have scheme : "file://".toList.all (fun c => 0x20 < c.toNat && !isBreak c) = true := by decide
    refine List.forall_mem_append.mpr ⟨by simpa using scheme, fun c mem => ?_⟩
    obtain ⟨s, listed, mem⟩ := List.mem_flatMap.mp mem
    obtain rfl | mem := List.mem_cons.mp mem
    · decide
    · exact ⟨((plain s listed).plain c mem).visible, ((plain s listed).plain c mem).read.1⟩
  have whole : ∀ c ∈ "file://".toList ++ escapedThrough (first :: others), isBreak c = false :=
    fun c mem => (visible c mem).2
  rw [readUrl?, trimmed_of_visible fun c mem => (visible c mem).1]
  rw [List.filter_eq_self.mpr fun c mem => by rw [whole c mem]; rfl]
  rw [path] at whole ⊢
  rw [pathStart?_file, Option.map_some, PathStart.read, suffixOf_append whole]
  -- the slash behind the two of the URL closes an empty segment
  have start : Reading.walk .file ⟨.absent, ['/']⟩ .empty
      ('/' :: (escapeSegment first ++ through (others.map escapeSegment))) =
        Reading.walk .file ⟨.absent, ['/', '/']⟩ .empty
          (escapeSegment first ++ through (others.map escapeSegment)) := rfl
  have first' := plain _ List.mem_cons_self
  obtain ⟨c, cs, begins⟩ := List.exists_cons_of_ne_nil first'.nonempty
  have noSlash : c ≠ '/' := (first'.plain c (begins ▸ List.mem_cons_self)).slash.1
  rw [start, Reading.walk_through ⟨[], rfl⟩ plain, begins]
  simp [noSlash]

theorem closeDrive_of_not_mem {path : List Char} (drive : ':' ∉ path ∧ '|' ∉ path) :
    closeDrive (Text.encode (String.ofList path)) = Text.encode (String.ofList path) := by
  have absent (b : UInt8) (c : Char) (ascii : b < 0x80) (same : c.toNat = b.toNat)
      (other : c ∉ path) : b ∉ Text.encode (String.ofList path) := by
    intro mem
    obtain ⟨d, there, number⟩ := Text.mem_encode ascii mem
    rw [String.toList_ofList] at there
    exact other (Char.toNat_inj.mp (same.trans number.symm) ▸ there)
  have colon := absent 0x3a ':' (by decide) rfl drive.1
  have bar := absent 0x7c '|' (by decide) rfl drive.2
  generalize Text.encode (String.ofList path) = bytes at colon bar
  unfold closeDrive
  split
  · rename_i b a c rest ends
    have last : b ∈ bytes := List.mem_reverse.mp (ends ▸ List.mem_cons_self)
    refine if_neg ?_
    have noColon : b ≠ 0x3a := fun same => colon (same ▸ last)
    have noBar : b ≠ 0x7c := fun same => bar (same ▸ last)
    simp [noColon, noBar]
  · rfl

theorem unescape_escapedThrough (names : List (List Char)) :
    unescape (Text.encode (String.ofList (escapedThrough names))) =
      Text.encode (String.ofList (through names)) := by
  induction names with
  | nil => rfl
  | cons n names ih =>
    have slash (cs : List Char) :
        Text.encode (String.ofList ('/' :: cs)) = 0x2f :: Text.encode (String.ofList cs) := by
      simp only [Text.encode_eq_flatMap, String.toList_ofList]
      rfl
    show unescape (Text.encode (String.ofList
      ('/' :: (escapeSegment n ++ escapedThrough names)))) = _
    rw [slash, unescape.eq_2 _ _ (by simp), String.ofList_append, Text.encode_append,
      unescape_escapeSegment, ih, ← Text.encode_append, ← String.ofList_append, ← slash]
    rfl

theorem ofFileUrl?_toFileUrl? {names : List (List Char)} (some : names ≠ [])
    (named : ∀ n ∈ names, IsName n) :
    ofFileUrl? ("file://" ++ String.ofList (escapedThrough names)) =
      .some (String.ofList (through names)) := by
  obtain ⟨first, others, rfl⟩ := List.exists_cons_of_ne_nil some
  have absolute : isAbsolute (escapedThrough (first :: others)) = true := rfl
  have drive : ':' ∉ through (first :: others) ∧ '|' ∉ through (first :: others) := by
    constructor
    all_goals
      intro mem
      obtain ⟨n, listed, mem⟩ := List.mem_flatMap.mp mem
      obtain slash | mem := List.mem_cons.mp mem
      · cases slash
    · exact (named n listed).drive.1 mem
    · exact (named n listed).drive.2 mem
  have text : ("file://" ++ String.ofList (escapedThrough (first :: others))).toList =
      "file://".toList ++ escapedThrough (first :: others) :=
    String.toList_append.trans (congrArg (_ ++ ·) String.toList_ofList)
  rw [ofFileUrl?, text, readUrl?_escapedThrough some named]
  simp only [Option.bind_eq_bind, Option.bind_some, absolute]
  rw [unescape_escapedThrough, closeDrive_of_not_mem drive, Text.decodeLossy_encode]
  rfl

end DebugAdapter.Paths
