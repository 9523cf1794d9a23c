import DebugAdapter.Proofs.Json.Tokens
import DebugAdapter.Proofs.Text.Encoding
import DebugAdapter.Proofs.Text.Trimming
import DebugAdapter.Protocol.Framing
import Mathlib.Data.List.DropRight

/-!
# Frames in a row

What a whole frame is, said without its reader: some lines, one of which is
about the length, a blank line, and a payload of any bytes. `readAll_frames`:
whole frames give their messages, and what follows them is read as if it stood
alone.
-/

namespace DebugAdapter

open Text (Bytes)

namespace Framing

/-- Decimal digits, perhaps after a plus sign, of a number of 64 bits. -/
def Denotes (cs : List Char) (n : Nat) : Prop :=
  ∃ digits, (cs = digits ∨ cs = '+' :: digits) ∧ digits ≠ [] ∧ (∀ c ∈ digits, c.isDigit) ∧
    Nat.ofDigitChars 10 digits 0 = n ∧ n ≤ maxNumber

/-- A line of a header without its line feed; more than carriage returns. -/
structure HeaderLine where
  text : String
  oneLine : '\n' ∉ text.toList
  marked : ∃ c ∈ text.toList, c ≠ '\r'

namespace HeaderLine

def bytes (l : HeaderLine) : Bytes := Text.encode l.text ++ [0x0a]

def IsLength (l : HeaderLine) : Prop := fieldName <+: l.text.toList

def Gives (l : HeaderLine) (n : Nat) : Prop :=
  ∃ value, l.text.toList = fieldName ++ value ∧ Denotes (Text.trimChars value) n

theorem Gives.isLength {l : HeaderLine} (h : l.Gives n) : l.IsLength := by
  obtain ⟨value, text, -⟩ := h
  exact ⟨value, text.symm⟩

end HeaderLine

/-- A whole frame: every line about the length can be read, and the last of them
gives the length of the payload. -/
structure Frame where
  lines : List HeaderLine
  /-- The number of carriage returns in the blank line. -/
  returns : Nat
  payload : Bytes
  readable : ∀ l ∈ lines, l.IsLength → ∃ n, l.Gives n
  announced : ∃ before last after, lines = before ++ last :: after ∧
    last.Gives payload.length ∧ ∀ l ∈ after, ¬l.IsLength
  small : payload.length ≤ maxLength

def blankLine (returns : Nat) : Bytes := List.replicate returns 0x0d ++ [0x0a]

def Frame.bytes (f : Frame) : Bytes :=
  f.lines.flatMap HeaderLine.bytes ++ blankLine f.returns ++ f.payload

-- ---------------------------------------------------------------------------
-- Lengths
-- ---------------------------------------------------------------------------

theorem digits?_eq_ok {cs : List Char} (digits : ∀ c ∈ cs, c.isDigit)
    (value : Nat.ofDigitChars 10 cs n = m) (fits : m ≤ maxNumber) : digits? n cs = .ok m := by
  induction cs generalizing n with
  | nil => exact congrArg Except.ok value
  | cons c cs ih =>
    rw [Nat.ofDigitChars_cons] at value
    have below := Json.le_ofDigitChars cs (10 * n + (c.toNat - '0'.toNat))
    rw [value, Nat.mul_comm] at below
    have here : c.isDigit = true := digits c List.mem_cons_self
    simp only [digits?, here, Bool.not_true, Bool.false_eq_true, if_false,
      if_pos (Nat.le_trans below fits)]
    refine ih (fun d hd => digits d (List.mem_cons_of_mem c hd)) ?_
    rwa [Nat.mul_comm n 10]

theorem length?_eq_ok {cs : List Char} (h : Denotes cs n) : length? cs = .ok n := by
  obtain ⟨digits, written, some, all, value, fits⟩ := h
  have read := digits?_eq_ok all value fits
  cases digits with
  | nil => exact absurd rfl some
  | cons d ds =>
    obtain rfl | rfl := written
    · have digit : d ≠ '+' := by
        rintro rfl
        exact absurd (all '+' List.mem_cons_self) (by decide)
      unfold length?
      split
      · rename_i same
        cases same
      · rename_i same
        exact absurd (List.cons.inj same).1 digit
      · rename_i same
        exact absurd (List.cons.inj same).1 digit
      · exact read
    · exact read

-- ---------------------------------------------------------------------------
-- Lines
-- ---------------------------------------------------------------------------

def isLineEnd (c : Char) : Bool := c = '\r' || c = '\n'

theorem trimLineEnd_eq (cs : List Char) : trimLineEnd cs = cs.rdropWhile isLineEnd := rfl

theorem trimLineEnd_concat (cs : List Char) : trimLineEnd (cs ++ ['\n']) = trimLineEnd cs :=
  List.rdropWhile_concat_pos isLineEnd cs '\n' rfl

theorem exists_lineEnd (cs : List Char) :
    ∃ ends, cs = trimLineEnd cs ++ ends ∧ ∀ c ∈ ends, isLineEnd c := by
  refine ⟨cs.rtakeWhile isLineEnd, ?_, fun c => List.mem_rtakeWhile_imp⟩
  exact List.rdropWhile_append_rtakeWhile.symm

theorem trimLineEnd_eq_nil {cs : List Char} (oneLine : '\n' ∉ cs) :
    trimLineEnd cs = [] ↔ ∀ c ∈ cs, c = '\r' := by
  rw [trimLineEnd_eq, List.rdropWhile_eq_nil_iff]
  refine forall₂_congr fun c mem => ?_
  have other : c ≠ '\n' := fun feed => oneLine (feed ▸ mem)
  simp [isLineEnd, other]

theorem isBlank_of_isLineEnd {c : Char} (h : isLineEnd c) : Text.isBlank c := by
  obtain rfl | rfl : c = '\r' ∨ c = '\n' := by simpa [isLineEnd] using h
  all_goals decide

theorem fieldName_prefix_trimLineEnd (cs : List Char) :
    fieldName <+: trimLineEnd cs ↔ fieldName <+: cs := by
  obtain ⟨ends, split, blank⟩ := exists_lineEnd cs
  constructor
  · intro h
    rw [split]
    exact h.trans (List.prefix_append ..)
  · intro h
    rw [split] at h
    obtain whole | ⟨rest, name⟩ := List.prefix_or_prefix_of_prefix h (List.prefix_append ..)
    · exact whole
    · -- what of the name lay in the line end would be a line end
      have within : rest <+: ends := by
        rw [← name] at h
        exact (List.prefix_append_right_inj _).mp h
      have none : rest = [] := List.eq_nil_iff_forall_not_mem.mpr fun c mem => by
        have plain : fieldName.all (!isLineEnd ·) = true := rfl
        have named : c ∈ fieldName := name ▸ List.mem_append_right _ mem
        simpa [blank c (within.subset mem)] using List.all_eq_true.mp plain c named
      have whole : fieldName = trimLineEnd cs := by rw [← name, none, List.append_nil]
      exact whole ▸ List.prefix_rfl

theorem trimChars_drop_trimLineEnd {cs : List Char} (h : fieldName <+: cs) :
    Text.trimChars ((trimLineEnd cs).drop fieldName.length) =
      Text.trimChars (cs.drop fieldName.length) := by
  obtain ⟨ends, split, blank⟩ := exists_lineEnd cs
  have long := ((fieldName_prefix_trimLineEnd cs).mpr h).length_le
  have dropped : cs.drop fieldName.length =
      (trimLineEnd cs).drop fieldName.length ++ ends := by
    rw [← List.drop_append_of_le_length long, ← split]
  rw [dropped, Text.trimChars_append_blanks fun c mem => isBlank_of_isLineEnd (blank c mem)]

theorem splitLine?_append {line : Bytes} (whole : 0x0a ∉ line) (rest : Bytes) :
    splitLine? (line ++ 0x0a :: rest) = some (line ++ [0x0a], rest) := by
  induction line with
  | nil => rfl
  | cons b line ih =>
    rw [List.mem_cons, not_or] at whole
    rw [List.cons_append, splitLine?, if_neg (Ne.symm whole.1), ih whole.2]
    rfl

theorem nextFrom_line (ended seen : Bool) (length : Option Nat) {text : String}
    (oneLine : '\n' ∉ text.toList) (rest : Bytes) :
    nextFrom ended seen length (Text.encode text ++ 0x0a :: rest) =
      match trimLineEnd text.toList with
      | [] => takePayload ended length rest
      | cs =>
        match lengthAfter length cs with
        | .error reason => .broken reason
        | .ok length => nextFrom ended true length rest := by
  have line : nextLine? ended (Text.encode text ++ 0x0a :: rest) =
      some (Text.encode text ++ [0x0a], rest) := by
    rw [nextLine?, splitLine?_append (Text.lineFeed_not_mem_encode oneLine)]
  have decoded : Text.decode? (Text.encode text ++ [0x0a]) = some (text ++ "\n") := by
    have feed : [0x0a] = Text.encode "\n" := by decide
    rw [feed, ← Text.encode_append, Text.decode?_encode]
  have trimmed : trimLineEnd (text ++ "\n").toList = trimLineEnd text.toList := by
    rw [String.toList_append]
    exact trimLineEnd_concat _
  rw [nextFrom]
  split
  · rename_i none
    rw [line] at none
    cases none
  · rename_i found
    rw [line] at found
    cases found
    rw [decoded]
    dsimp only
    generalize trimLineEnd (text ++ "\n").toList = cs at trimmed
    subst trimmed
    rfl

-- ---------------------------------------------------------------------------
-- Headers
-- ---------------------------------------------------------------------------

section
variable (ended seen : Bool) (length : Option Nat)

theorem nextFrom_blankLine (returns : Nat) (rest : Bytes) :
    nextFrom ended seen length (blankLine returns ++ rest) = takePayload ended length rest := by
  have text : List.replicate returns 0x0d =
      Text.encode (String.ofList (List.replicate returns '\r')) := by
    have one : String.utf8EncodeChar '\r' = [0x0d] := rfl
    rw [Text.encode_eq_flatMap, String.toList_ofList, List.flatMap_replicate, one,
      List.flatten_replicate_singleton]
  have blank : trimLineEnd (List.replicate returns '\r') = [] := by
    rw [trimLineEnd_eq, List.rdropWhile_eq_nil_iff]
    intro c mem
    rw [List.eq_of_mem_replicate mem]
    rfl
  have oneLine : '\n' ∉ (String.ofList (List.replicate returns '\r')).toList := by
    simp
  rw [blankLine, List.append_assoc, List.singleton_append, text,
    nextFrom_line ended seen length oneLine, String.toList_ofList, blank]

theorem HeaderLine.trimLineEnd_ne_nil (l : HeaderLine) : trimLineEnd l.text.toList ≠ [] := by
  obtain ⟨c, mem, mark⟩ := l.marked
  exact fun blank => mark ((trimLineEnd_eq_nil l.oneLine).mp blank c mem)

theorem nextFrom_headerLine (l : HeaderLine) (rest : Bytes) :
    nextFrom ended seen length (l.bytes ++ rest) =
      match lengthAfter length (trimLineEnd l.text.toList) with
      | .error reason => .broken reason
      | .ok length => nextFrom ended true length rest := by
  rw [HeaderLine.bytes, List.append_assoc, List.singleton_append,
    nextFrom_line ended seen length l.oneLine]
  split
  · rename_i blank
    exact absurd blank l.trimLineEnd_ne_nil
  · rfl

theorem nextFrom_of_gives {l : HeaderLine} (h : l.Gives n) (rest : Bytes) :
    nextFrom ended seen length (l.bytes ++ rest) = nextFrom ended true (some n) rest := by
  have about : fieldName <+: trimLineEnd l.text.toList :=
    (fieldName_prefix_trimLineEnd _).mpr h.isLength
  obtain ⟨value, text, number⟩ := h
  have given : Text.trimChars (l.text.toList.drop fieldName.length) = Text.trimChars value := by
    rw [text, List.drop_left]
  rw [nextFrom_headerLine, lengthAfter, if_pos (List.isPrefixOf_iff_prefix.mpr about),
    trimChars_drop_trimLineEnd ⟨value, text.symm⟩, given, length?_eq_ok number]
  rfl

theorem nextFrom_of_not_isLength {l : HeaderLine} (h : ¬l.IsLength) (rest : Bytes) :
    nextFrom ended seen length (l.bytes ++ rest) = nextFrom ended true length rest := by
  have other : ¬(fieldName.isPrefixOf (trimLineEnd l.text.toList) = true) := by
    rw [List.isPrefixOf_iff_prefix, fieldName_prefix_trimLineEnd]
    exact h
  rw [nextFrom_headerLine, lengthAfter, if_neg other]

theorem nextFrom_readable {lines : List HeaderLine}
    (readable : ∀ l ∈ lines, l.IsLength → ∃ n, l.Gives n) (rest : Bytes) :
    ∃ seen' length', nextFrom ended seen length (lines.flatMap HeaderLine.bytes ++ rest) =
      nextFrom ended seen' length' rest := by
  induction lines generalizing seen length with
  | nil => exact ⟨seen, length, rfl⟩
  | cons l lines ih =>
    have others := fun m mem => readable m (List.mem_cons_of_mem l mem)
    rw [List.flatMap_cons, List.append_assoc]
    by_cases about : l.IsLength
    · obtain ⟨n, gives⟩ := readable l List.mem_cons_self about
      rw [nextFrom_of_gives ended seen length gives]
      exact ih true (some n) others
    · rw [nextFrom_of_not_isLength ended seen length about]
      exact ih true length others

theorem nextFrom_others {lines : List HeaderLine} (others : ∀ l ∈ lines, ¬l.IsLength)
    (returns : Nat) (rest : Bytes) :
    nextFrom ended seen length (lines.flatMap HeaderLine.bytes ++ (blankLine returns ++ rest)) =
      takePayload ended length rest := by
  induction lines generalizing seen with
  | nil => exact nextFrom_blankLine ended seen length returns rest
  | cons l lines ih =>
    rw [List.flatMap_cons, List.append_assoc,
      nextFrom_of_not_isLength ended seen length (others l List.mem_cons_self)]
    exact ih true fun m mem => others m (List.mem_cons_of_mem l mem)

end

theorem takePayload_append (ended : Bool) {payload : Bytes} (small : payload.length ≤ maxLength)
    (rest : Bytes) :
    takePayload ended (some payload.length) (payload ++ rest) = .frame payload rest := by
  have there : payload.length ≤ (payload ++ rest).length := by simp
  simp only [takePayload, if_neg (Nat.not_lt.mpr small), if_pos there, List.take_left,
    List.drop_left]

/-- The reader takes a whole frame off the bytes, whatever comes after it. -/
theorem next_frame (ended : Bool) (f : Frame) (rest : Bytes) :
    next ended (f.bytes ++ rest) = .frame f.payload rest := by
  obtain ⟨before, last, after, lines, gives, others⟩ := f.announced
  have readable : ∀ l ∈ before, l.IsLength → ∃ n, l.Gives n := fun l mem =>
    f.readable l (lines ▸ List.mem_append_left _ mem)
  have bytes : f.bytes ++ rest = before.flatMap HeaderLine.bytes ++ (last.bytes ++
      (after.flatMap HeaderLine.bytes ++ (blankLine f.returns ++ (f.payload ++ rest)))) := by
    simp only [Frame.bytes, lines, List.flatMap_append, List.flatMap_cons, List.append_assoc]
  obtain ⟨seen, length, read⟩ := nextFrom_readable ended false none readable (last.bytes ++
    (after.flatMap HeaderLine.bytes ++ (blankLine f.returns ++ (f.payload ++ rest))))
  rw [next, bytes, read, nextFrom_of_gives ended seen length gives,
    nextFrom_others ended true _ others, takePayload_append ended f.small]

-- ---------------------------------------------------------------------------
-- Written frames
-- ---------------------------------------------------------------------------

section
variable {n : Nat}

theorem not_isBlank_of_isDigit {c : Char} (h : c.isDigit) : Text.isBlank c = false := by
  have range : 48 ≤ c.toNat ∧ c.toNat ≤ 57 := by
    simpa [Char.isDigit, UInt32.le_iff_toNat_le] using h
  simp only [Text.isBlank, Bool.or_eq_false_iff, Bool.and_eq_false_iff, decide_eq_false_iff_not]
  omega

theorem denotes_toDigits (fits : n ≤ maxNumber) : Denotes (Nat.toDigits 10 n) n :=
  ⟨_, .inl rfl, Nat.toDigits_ne_nil, fun _ => Json.isDigit_of_mem_toDigits,
    Nat.ofDigitChars_ten_toDigits, fits⟩

def lengthValue (n : Nat) : List Char := ' ' :: Nat.toDigits 10 n ++ ['\r']

theorem trimChars_lengthValue : Text.trimChars (lengthValue n) = Nat.toDigits 10 n := by
  have digits (cs : List Char) (all : ∀ c ∈ cs, c.isDigit) : Text.dropBlanks cs = cs := by
    cases cs with
    | nil => rfl
    | cons c cs =>
      have first := not_isBlank_of_isDigit (all c List.mem_cons_self)
      exact List.dropWhile_cons_of_neg (by simp [first])
  have reversed : ∀ c ∈ (Nat.toDigits 10 n).reverse, c.isDigit := fun c mem =>
    Json.isDigit_of_mem_toDigits (List.mem_reverse.mp mem)
  have start (cs : List Char) : Text.dropBlanks (' ' :: cs) = Text.dropBlanks cs :=
    List.dropWhile_cons_of_pos rfl
  rw [lengthValue, Text.trimChars_append_blanks (List.forall_mem_singleton.mpr rfl), Text.trimChars, start,
    digits _ fun _ => Json.isDigit_of_mem_toDigits, digits _ reversed, List.reverse_reverse]

theorem lineFeed_not_mem_lengthValue : '\n' ∉ lengthValue n := by
  intro mem
  simp only [lengthValue, List.mem_append, List.mem_cons, List.not_mem_nil, or_false] at mem
  obtain (mem | mem) | mem := mem
  · exact absurd mem (by decide)
  · exact absurd (Json.isDigit_of_mem_toDigits mem) (by decide)
  · exact absurd mem (by decide)

def lengthLine (n : Nat) : HeaderLine where
  text := String.ofList (fieldName ++ lengthValue n)
  oneLine := by
    rw [String.toList_ofList, List.mem_append, not_or]
    exact ⟨by decide, lineFeed_not_mem_lengthValue⟩
  marked := ⟨'C', by
    rw [String.toList_ofList]
    exact List.mem_append_left _ (by decide), by decide⟩

theorem gives_lengthLine (fits : n ≤ maxNumber) : (lengthLine n).Gives n := by
  refine ⟨lengthValue n, String.toList_ofList, ?_⟩
  rw [trimChars_lengthValue]
  exact denotes_toDigits fits

end

theorem maxLength_le_maxNumber : maxLength ≤ maxNumber := by
  simp only [maxLength, maxNumber]
  omega

def Frame.ofPayload (payload : Bytes) (small : payload.length ≤ maxLength) : Frame :=
  have gives : (lengthLine payload.length).Gives payload.length :=
    gives_lengthLine (Nat.le_trans small maxLength_le_maxNumber)
  { lines := [lengthLine payload.length]
    returns := 1
    payload := payload
    readable := by
      rintro l mem -
      rw [List.mem_singleton.mp mem]
      exact ⟨_, gives⟩
    announced := ⟨[], _, [], rfl, gives, fun _ mem => absurd mem List.not_mem_nil⟩
    small := small }

theorem header_eq (n : Nat) : header n = (lengthLine n).bytes ++ blankLine 1 := by
  have written : "Content-Length: " ++ Decimal.digitsText n ++ "\r\n\r\n" =
      (lengthLine n).text ++ "\n\r\n" := by
    apply String.toList_inj.mp
    have name : "Content-Length: ".toList = fieldName ++ [' '] := by decide
    have feed : "\r\n\r\n".toList = '\r' :: "\n\r\n".toList := by decide
    simp only [String.toList_append, Decimal.digitsText, String.toList_ofList, lengthLine,
      lengthValue, name, feed, List.append_assoc, List.cons_append, List.nil_append]
  have ends : Text.encode "\n\r\n" = [0x0a] ++ blankLine 1 := by decide
  rw [header, written, Text.encode_append, ends, ← List.append_assoc]
  rfl

theorem Frame.bytes_ofPayload (payload : Bytes) (small : payload.length ≤ maxLength) :
    (Frame.ofPayload payload small).bytes = header payload.length ++ payload := by
  rw [header_eq, Frame.bytes]
  simp [Frame.ofPayload]

-- ---------------------------------------------------------------------------
-- Streams
-- ---------------------------------------------------------------------------

theorem takePayload_length (h : takePayload ended length bytes = .frame payload rest) :
    rest.length ≤ bytes.length := by
  unfold takePayload at h
  split at h
  · cases h
  split at h
  · cases h
  split at h
  · cases h
    simp
  · split at h <;> cases h

theorem nextFrom_length (h : nextFrom ended seen length bytes = .frame payload rest) :
    rest.length < bytes.length := by
  fun_induction nextFrom ended seen length bytes with
  | case5 seen length bytes line after found shorter text decoded blank =>
    exact Nat.lt_of_le_of_lt (takePayload_length h) shorter
  | case7 seen length bytes line after found shorter text decoded blank length' given ih =>
    exact Nat.lt_trans (ih h) shorter
  | _ => cases h

theorem next_length (h : next ended bytes = .frame payload rest) :
    rest.length < bytes.length := nextFrom_length h

theorem payloadsFrom_succ (ended : Bool) (fuel : Nat) (bytes : Bytes) :
    payloadsFrom ended (fuel + 1) bytes =
      match next ended bytes with
      | .frame payload rest =>
        (payload :: (payloadsFrom ended fuel rest).1, (payloadsFrom ended fuel rest).2)
      | last => ([], last, bytes) := rfl

theorem payloadsFrom_eq (ended : Bool) {fuel : Nat} {bytes : Bytes} (enough : bytes.length < fuel) :
    payloadsFrom ended fuel bytes = payloads ended bytes := by
  suffices same : ∀ a b, bytes.length < a → bytes.length < b →
      payloadsFrom ended a bytes = payloadsFrom ended b bytes by
    exact same fuel (bytes.length + 1) enough (Nat.lt_succ_self _)
  intro a b left right
  induction a generalizing bytes b with
  | zero => exact absurd left (Nat.not_lt_zero _)
  | succ a ih =>
    cases b with
    | zero => exact absurd right (Nat.not_lt_zero _)
    | succ b =>
      rw [payloadsFrom_succ, payloadsFrom_succ]
      split
      · rename_i payload rest found
        have shorter := next_length found
        rw [ih (by omega) b (by omega) (by omega)]
      · rfl

theorem payloads_frame (h : next ended bytes = .frame payload rest) :
    payloads ended bytes = (payload :: (payloads ended rest).1, (payloads ended rest).2) := by
  rw [payloads, payloadsFrom_succ, h]
  simp only [payloadsFrom_eq ended (next_length h)]

theorem payloads_frames (ended : Bool) (frames : List Frame) (rest : Bytes) :
    payloads ended (frames.flatMap Frame.bytes ++ rest) =
      (frames.map Frame.payload ++ (payloads ended rest).1, (payloads ended rest).2) := by
  induction frames with
  | nil => rfl
  | cons f frames ih =>
    rw [List.flatMap_cons, List.append_assoc, payloads_frame (next_frame ended f _), ih]
    rfl

/-- Whole frames give the messages of those payloads that are messages, in order,
and what follows them gives what it gives alone. -/
theorem readAll_frames (frames : List Frame) (rest : Bytes) :
    readAll (frames.flatMap Frame.bytes ++ rest) =
      ((frames.map Frame.payload).filterMap Json.ofBytes? ++ (readAll rest).1,
        (readAll rest).2) := by
  simp only [readAll, payloads_frames, List.filterMap_append]

def framed (payload : Bytes) : Bytes := header payload.length ++ payload

def allFramed (payloads : List Bytes) : Bytes := payloads.flatMap framed

@[simp] theorem allFramed_nil : allFramed [] = [] := rfl

@[simp] theorem allFramed_cons (p : Bytes) (ps : List Bytes) :
    allFramed (p :: ps) = framed p ++ allFramed ps := rfl

theorem readAll_nil : readAll [] = ([], none) := by
  have ended : payloads true [] = ([], .finished, []) := by decide +kernel
  rw [readAll, ended]
  rfl

theorem readAll_framed {ps : List Bytes} (small : ∀ p ∈ ps, p.length ≤ maxLength) (rest : Bytes) :
    readAll (allFramed ps ++ rest) =
      (ps.filterMap Json.ofBytes? ++ (readAll rest).1, (readAll rest).2) := by
  induction ps with
  | nil => rfl
  | cons p ps ih =>
    have one := readAll_frames [.ofPayload p (small p List.mem_cons_self)] (allFramed ps ++ rest)
    rw [List.flatMap_singleton, Frame.bytes_ofPayload,
      ih fun q mem => small q (List.mem_cons_of_mem p mem)] at one
    rw [allFramed_cons, framed, List.append_assoc, one, ← List.append_assoc,
      ← List.filterMap_append]
    rfl

def lengthTwice : Frame where
  lines := [lengthLine 99, ⟨"X-Other: 1", by decide, 'X', by decide, by decide⟩, lengthLine 2]
  returns := 1
  payload := Text.encode "\x7b\x7d"
  readable := by
    intro l mem about
    simp only [List.mem_cons, List.not_mem_nil, or_false] at mem
    obtain rfl | rfl | rfl := mem
    · exact ⟨99, gives_lengthLine (by decide)⟩
    · exact absurd about (by unfold HeaderLine.IsLength; decide)
    · exact ⟨2, gives_lengthLine (by decide)⟩
  announced := ⟨[_, _], _, [], rfl, gives_lengthLine (by decide), nofun⟩
  small := by decide

/-- A payload that looks like a header is skipped, and after it a header without a
length breaks the stream off. -/
theorem readAll_lengthTwice :
    let lookalike := Frame.ofPayload (Text.encode "Content-Length: 1\n\n\x7b\x7d") (by decide)
    readAll ([lengthTwice, lookalike].flatMap Frame.bytes ++ Text.encode "X-Other: 1\n\n\x7b\x7d") =
      ([.obj []], some .missingLength) := by
  intro lookalike
  have message : Json.ofBytes? (Text.encode "\x7b\x7d") = some (.obj []) := rfl
  have skipped : Json.ofBytes? (Text.encode "Content-Length: 1\n\n\x7b\x7d") = none := rfl
  have broken : payloads true (Text.encode "X-Other: 1\n\n\x7b\x7d") =
      ([], .broken .missingLength, Text.encode "X-Other: 1\n\n\x7b\x7d") := by decide +kernel
  have rest : readAll (Text.encode "X-Other: 1\n\n\x7b\x7d") = ([], some .missingLength) := by
    rw [readAll, broken]
    rfl
  rw [readAll_frames, rest]
  simp [lookalike, lengthTwice, Frame.ofPayload, message, skipped]

end Framing

end DebugAdapter
