/-
# The tokens of a spelling

What a scan finds in a sequence of bytes, and that it finds in a spelling of a tree the
tokens of that tree.  A numeral is complete only with the byte after it, so a spelling
may end inside its last token (`Spells`); a blank or a punctuation mark completes it.
-/
import SchemaDto.Proofs.Json.Grammar

namespace SchemaDto.Json

/-! ## Runs of a scan -/

namespace Scan

variable {scan next last : Scan} {tokens later : List Token} {byte : UInt8}
  {bytes others : List UInt8}

/-- The bytes lead from one scan to another and complete the tokens on the way. -/
inductive Yields : Scan → List UInt8 → List Token → Scan → Prop where
  | nil {scan : Scan} : Yields scan [] [] scan
  | cons {scan next last : Scan} {byte : UInt8} {bytes : List UInt8} {tokens later : List Token}
      (first : scan.step byte = (tokens, next)) (rest : Yields next bytes later last) :
      Yields scan (byte :: bytes) (tokens ++ later) last

/-- A byte that completes no token. -/
theorem Yields.silent (first : scan.step byte = ([], next)) (rest : next.Yields bytes later last) :
    scan.Yields (byte :: bytes) later last :=
  .cons first rest

theorem Yields.one (first : scan.step byte = (tokens, next)) : scan.Yields [byte] tokens next := by
  have := Yields.cons first .nil
  rwa [List.append_nil] at this

theorem Yields.append (first : scan.Yields bytes tokens next)
    (second : next.Yields others later last) :
    scan.Yields (bytes ++ others) (tokens ++ later) last := by
  induction first with
  | nil => exact second
  | cons step _ ih =>
      rw [List.append_assoc]
      exact .cons step (ih second)

end Scan

/-! ## Blanks and punctuation marks -/

open Scan (Yields)

theorem isGap_of_mem : ∀ byte ∈ ascii " \t\n\r", isGap byte = true :=
  List.all_eq_true.mp rfl

theorem AreBlanks.yields {gap : List UInt8} (h : AreBlanks gap) : Yields .gap gap [] .gap := by
  induction gap with
  | nil => exact .nil
  | cons byte rest ih =>
      have blank : isGap byte = true := isGap_of_mem byte (h byte List.mem_cons_self)
      refine .silent ?_ (ih fun other mem => h other (List.mem_cons_of_mem _ mem))
      rw [Scan.step, Scan.start, if_pos blank]

/-- The bytes that cannot go on a numeral: blanks and punctuation marks. -/
def delimiters : List UInt8 := ascii " \t\n\r[]\x7b\x7d,:"

theorem mem_delimiters_of_blank {byte : UInt8} (h : byte ∈ ascii " \t\n\r") :
    byte ∈ delimiters := by
  have all : (ascii " \t\n\r").all (delimiters.contains ·) = true := rfl
  exact List.contains_iff_mem.mp (List.all_eq_true.mp all byte h)

theorem digit?_delimiter {byte : UInt8} (h : byte ∈ delimiters) : digit? byte = none := by
  have all : delimiters.all (digit? · == none) = true := rfl
  exact eq_of_beq (List.all_eq_true.mp all byte h)

/-- The marks inside a numeral, except for the signs of the exponent. -/
theorem ne_mark_of_delimiter {byte : UInt8} (h : byte ∈ delimiters) :
    ∀ mark ∈ ascii ".eE", (byte == mark) = false := by
  have all : delimiters.all (fun byte => (ascii ".eE").all (!byte == ·)) = true := rfl
  intro mark mem
  simpa using List.all_eq_true.mp (List.all_eq_true.mp all byte h) mark mem

/-- A delimiter ends a numeral, where it may end, and counts as if it stood between two
tokens. -/
theorem Scan.inNumeral_delimiter {byte : UInt8} (h : byte ∈ delimiters) {part : NumeralPart}
    (ends : part.isEnd = true) (numeral : Numeral) :
    inNumeral part numeral byte = (.number numeral :: (start byte).1, (start byte).2) := by
  have mark : addMark part numeral byte = none := by
    have marks := ne_mark_of_delimiter h
    have point : (byte == byteOf '.') = false := marks _ List.mem_cons_self
    have lower : (byte == byteOf 'e') = false :=
      marks _ (List.mem_cons_of_mem _ List.mem_cons_self)
    have upper : (byte == byteOf 'E') = false :=
      marks _ (List.mem_cons_of_mem _ (List.mem_cons_of_mem _ List.mem_cons_self))
    cases part with
    | zero | whole | fraction => simp [addMark, point, lower, upper]
    | exponent => rfl
    | sign | point | mark | markSign => cases ends
  rw [inNumeral, digit?_delimiter h, mark]
  exact if_pos ends

/-! ## Spellings between two tokens -/

/-- Between two tokens the bytes spell the tokens.  The last one may be a numeral that
the next byte may still go on. -/
inductive Spells (bytes : List UInt8) (tokens : List Token) : Prop where
  | closed (h : Yields .gap bytes tokens .gap)
  | pending {before : List Token} {part : NumeralPart} {numeral : Numeral}
      (h : Yields .gap bytes before (.numeral part numeral)) (ends : part.isEnd = true)
      (all : tokens = before ++ [.number numeral])

namespace Spells

variable {bytes gap others : List UInt8} {tokens later : List Token} {byte : UInt8}

/-- A delimiter closes what was spelled before it. -/
theorem delimiter (h : Spells bytes tokens) (mem : byte ∈ delimiters)
    (step : Scan.start byte = (later, .gap)) :
    Yields .gap (bytes ++ [byte]) (tokens ++ later) .gap := by
  cases h with
  | closed h => exact h.append (.one step)
  | pending h ends all =>
      subst all
      rw [List.append_assoc]
      refine h.append (.one ?_)
      rw [Scan.step, Scan.inNumeral_delimiter mem ends, step]
      rfl

theorem blanks (h : Spells bytes tokens) (areBlanks : AreBlanks gap) :
    Spells (bytes ++ gap) tokens := by
  cases gap with
  | nil => rwa [List.append_nil]
  | cons byte rest =>
      have mem : byte ∈ ascii " \t\n\r" := areBlanks byte List.mem_cons_self
      have first : Yields .gap (bytes ++ [byte]) (tokens ++ []) .gap := by
        refine h.delimiter (mem_delimiters_of_blank mem) ?_
        rw [Scan.start, if_pos (isGap_of_mem byte mem)]
      have rest : Yields .gap rest [] .gap :=
        AreBlanks.yields fun other mem => areBlanks other (List.mem_cons_of_mem _ mem)
      rw [List.append_cons]
      exact .closed (by simpa using first.append rest)

/-- What was spelled before, up to a closed token. -/
theorem after (first : Yields .gap bytes tokens .gap) (second : Spells others later) :
    Spells (bytes ++ others) (tokens ++ later) := by
  cases second with
  | closed h => exact .closed (first.append h)
  | pending h ends all =>
      exact .pending (first.append h) ends (by rw [all, List.append_assoc])

end Spells

/-! ## Numerals -/

/-- The byte of a digit. -/
def digitByte (digit : Digit) : UInt8 := (48 + digit.val).toUInt8

theorem digit?_digitByte (digit : Digit) : digit? (digitByte digit) = some digit := by
  revert digit
  decide

/-- Digits go on a numeral one by one: `grow` says what the first part does with a digit,
which leads into the last part, and then what every further digit does. -/
theorem Scan.yields_digits (part last : NumeralPart) (grow : Numeral → Digit → Numeral)
    (enter : ∀ numeral digit,
      addDigit part numeral digit = some (.numeral last (grow numeral digit)))
    (stay : ∀ numeral digit,
      addDigit last numeral digit = some (.numeral last (grow numeral digit)))
    {digits : List Digit} (some : digits ≠ []) (numeral : Numeral) :
    Yields (.numeral part numeral) (printDigits digits) []
      (.numeral last (digits.foldl grow numeral)) := by
  induction digits generalizing part numeral with
  | nil => exact absurd rfl some
  | cons digit rest ih =>
      have step : (Scan.numeral part numeral).step (digitByte digit) =
          ([], .numeral last (grow numeral digit)) := by
        rw [Scan.step, inNumeral, digit?_digitByte]
        simp only [enter]
      refine .silent step ?_
      cases rest with
      | nil => exact .nil
      | cons second others => exact ih last stay (List.cons_ne_nil _ _) _

namespace Numeral

/-- One more digit before the point. -/
def addWhole (numeral : Numeral) (digit : Digit) : Numeral :=
  { numeral with whole := numeral.whole ++ [digit] }

/-- One more digit after the point. -/
def addFraction (numeral : Numeral) (digit : Digit) : Numeral :=
  { numeral with fraction := numeral.fraction ++ [digit] }

theorem foldl_addWhole (numeral : Numeral) (digits : List Digit) :
    digits.foldl addWhole numeral = { numeral with whole := numeral.whole ++ digits } := by
  induction digits generalizing numeral with
  | nil => simp
  | cons digit rest ih => rw [List.foldl_cons, ih]; simp [addWhole]

theorem foldl_addFraction (numeral : Numeral) (digits : List Digit) :
    digits.foldl addFraction numeral = { numeral with fraction := numeral.fraction ++ digits } := by
  induction digits generalizing numeral with
  | nil => simp
  | cons digit rest ih => rw [List.foldl_cons, ih]; simp [addFraction]

theorem foldl_addExponent (numeral : Numeral) (negative : Bool) (before digits : List Digit)
    (h : numeral.exponent = some (negative, before)) :
    digits.foldl addExponent numeral =
      { numeral with exponent := some (negative, before ++ digits) } := by
  induction digits generalizing numeral before with
  | nil => rw [List.append_nil, List.foldl_nil, ← h]
  | cons digit rest ih =>
      rw [List.foldl_cons, ih (numeral.addExponent digit) (before ++ [digit])]
      · simp [addExponent]
      · simp [addExponent, h]

end Numeral

namespace Scan

theorem start_digitByte (digit : Digit) :
    start (digitByte digit) = ([], firstDigit false digit) := by
  revert digit
  decide

theorem start_minus : start (byteOf '-') = ([], .numeral .sign ⟨true, [], [], none⟩) := by decide

/-- The sign and the first digit. -/
theorem yields_firstDigit (negative : Bool) (digit : Digit) :
    Yields .gap (minus negative ++ [digitByte digit]) [] (firstDigit negative digit) := by
  cases negative with
  | false => exact .one (start_digitByte digit)
  | true =>
      refine .silent start_minus (.one ?_)
      rw [step, inNumeral, digit?_digitByte]
      rfl

/-- The sign and the digits before the point. -/
theorem yields_whole (negative : Bool) {whole : List Digit} (h : IsWhole whole) :
    ∃ part, (part = .zero ∨ part = .whole) ∧
      Yields .gap (minus negative ++ printDigits whole) []
        (.numeral part ⟨negative, whole, [], none⟩) := by
  cases whole with
  | nil => exact h.elim
  | cons digit rest =>
      have first := yields_firstDigit negative digit
      rw [firstDigit] at first
      by_cases zero : digit.val = 0
      · rw [h zero]
        refine ⟨.zero, .inl rfl, ?_⟩
        rwa [if_pos zero] at first
      · refine ⟨.whole, .inr rfl, ?_⟩
        rw [if_neg zero] at first
        cases rest with
        | nil => exact first
        | cons second others =>
            have rest := yields_digits .whole .whole Numeral.addWhole (fun _ _ => rfl)
              (fun _ _ => rfl) (List.cons_ne_nil second others) ⟨negative, [digit], [], none⟩
            rw [Numeral.foldl_addWhole] at rest
            have all := first.append rest
            rwa [List.append_assoc] at all

/-- The point and the digits after it. -/
theorem yields_fraction {part : NumeralPart} (h : part = .zero ∨ part = .whole)
    (negative : Bool) (whole fraction : List Digit) :
    ∃ last, (last = .zero ∨ last = .whole ∨ last = .fraction) ∧
      Yields (.numeral part ⟨negative, whole, [], none⟩) (fractionText fraction) []
        (.numeral last ⟨negative, whole, fraction, none⟩) := by
  cases fraction with
  | nil => exact ⟨part, h.imp_right .inl, .nil⟩
  | cons digit rest =>
      have point : (numeral part ⟨negative, whole, [], none⟩).step (byteOf '.') =
          ([], .numeral .point ⟨negative, whole, [], none⟩) := by
        rcases h with rfl | rfl <;> rfl
      have digits := yields_digits .point .fraction Numeral.addFraction (fun _ _ => rfl)
        (fun _ _ => rfl) (List.cons_ne_nil digit rest) ⟨negative, whole, [], none⟩
      rw [Numeral.foldl_addFraction] at digits
      exact ⟨.fraction, .inr (.inr rfl), .silent point digits⟩

/-- The letter of the exponent. -/
theorem step_exponentLetter {part : NumeralPart}
    (h : part = .zero ∨ part = .whole ∨ part = .fraction) (soFar : Numeral) {letter : UInt8}
    (mem : letter ∈ ascii "eE") :
    (numeral part soFar).step letter =
      ([], .numeral .mark { soFar with exponent := some (false, []) }) := by
  have eq : letter = byteOf 'e' ∨ letter = byteOf 'E' := by simpa [ascii, byteOf] using mem
  rcases eq with rfl | rfl <;> rcases h with rfl | rfl | rfl <;> rfl

/-- The sign of the exponent. -/
theorem step_exponentSign (soFar : Numeral) (h : soFar.exponent = some (false, []))
    (negative : Bool) :
    (numeral .mark soFar).step (byteOf (if negative then '-' else '+')) =
      ([], .numeral .markSign { soFar with exponent := some (negative, []) }) := by
  obtain ⟨sign, whole, fraction, exponent⟩ := soFar
  subst h
  cases negative <;> rfl

/-- The digits of the exponent. -/
theorem yields_exponentDigits {part : NumeralPart} (h : part = .mark ∨ part = .markSign)
    (soFar : Numeral) (negative : Bool) {digits : List Digit} (some : digits ≠ []) :
    Yields (.numeral part { soFar with exponent := .some (negative, []) }) (printDigits digits) []
      (.numeral .exponent { soFar with exponent := .some (negative, digits) }) := by
  have enter : ∀ numeral digit, addDigit part numeral digit =
      .some (.numeral .exponent (numeral.addExponent digit)) := by
    intro numeral digit
    rcases h with rfl | rfl <;> rfl
  have yields := yields_digits part .exponent Numeral.addExponent enter (fun _ _ => rfl) some
    { soFar with exponent := .some (negative, []) }
  rwa [Numeral.foldl_addExponent _ negative [] digits rfl] at yields

/-- The exponent. -/
theorem yields_exponent {part : NumeralPart}
    (h : part = .zero ∨ part = .whole ∨ part = .fraction) {exponent : Option (Bool × List Digit)}
    {bytes : List UInt8} (written : ExponentWritten exponent bytes) (soFar : Numeral)
    (blank : soFar.exponent = none) :
    ∃ last : NumeralPart, last.isEnd = true ∧
      Yields (.numeral part soFar) bytes [] (.numeral last { soFar with exponent }) := by
  cases written with
  | absent =>
      have ends : part.isEnd = true := by rcases h with rfl | rfl | rfl <;> rfl
      have same : { soFar with exponent := none } = soFar := by rw [← blank]
      exact ⟨part, ends, same ▸ .nil⟩
  | plain letter some =>
      have digits := yields_exponentDigits (.inl rfl) soFar false some
      exact ⟨.exponent, rfl, .silent (step_exponentLetter h soFar letter) digits⟩
  | signed negative letter some =>
      have digits := yields_exponentDigits (.inr rfl) soFar negative some
      have sign := step_exponentSign { soFar with exponent := .some (false, []) } rfl negative
      exact ⟨.exponent, rfl, .silent (step_exponentLetter h soFar letter) (.silent sign digits)⟩

end Scan

/-- A spelling of a numeral. -/
theorem Numeral.Written.spells {numeral : Numeral} {bytes : List UInt8}
    (h : numeral.Written bytes) : Spells bytes [.number numeral] := by
  obtain ⟨isWhole, exponent, written, rfl⟩ := h
  obtain ⟨negative, whole, fraction, mark⟩ := numeral
  obtain ⟨part, wholePart, first⟩ := Scan.yields_whole negative isWhole
  obtain ⟨part, fractionPart, second⟩ := Scan.yields_fraction wholePart negative whole fraction
  obtain ⟨last, ends, third⟩ :=
    Scan.yields_exponent fractionPart written ⟨negative, whole, fraction, none⟩ rfl
  exact .pending ((first.append second).append third) ends rfl

/-! ## Strings and words -/

theorem shortEscape?_of_mem {entry : UInt8 × UInt8} (h : entry ∈ shortEscapes) :
    (entry.1 == byteOf 'u') = false ∧ shortEscape? entry.1 = some entry.2 := by
  have all : shortEscapes.all (fun entry =>
      entry.1 != byteOf 'u' && shortEscape? entry.1 == some entry.2) = true := rfl
  simpa using List.all_eq_true.mp all entry h

theorem hexDigit?_of_isHexDigit {value : Fin 16} {byte : UInt8} (h : IsHexDigit value byte) :
    hexDigit? byte = some value.val := by
  have digits : ∀ value : Fin 16,
      hexDigit? (byteOf (Nat.digitChar value)) = some value.val ∧
        hexDigit? (byteOf (Nat.digitChar value).toUpper) = some value.val := by
    decide
  rcases h with rfl | rfl
  · exact (digits value).1
  · exact (digits value).2

/-- One more digit of a numeric escape. -/
theorem Scan.inHex_digit {value : Fin 16} {byte : UInt8} (h : IsHexDigit value byte)
    (pieces : List Piece) (left soFar : Nat) :
    (Scan.hex pieces left soFar).step byte =
      if left ≤ 1 then ([], .string (.unit (16 * soFar + value) :: pieces))
      else ([], .hex pieces (left - 1) (16 * soFar + value)) := by
  rw [step, inHex, hexDigit?_of_isHexDigit h]

theorem Piece.Written.yields {piece : Piece} {bytes : List UInt8} (h : piece.Written bytes)
    (before : List Piece) : Yields (.string before) bytes [] (.string (piece :: before)) := by
  cases h with
  | plain visible quote backslash =>
      refine .one ?_
      have control : ¬ _ < (32 : UInt8) := UInt8.not_lt.mpr visible
      rw [Scan.step, Scan.inString, if_neg (by simpa using quote),
        if_neg (by simpa using backslash), if_neg control]
  | short mem =>
      obtain ⟨notUnit, short⟩ := shortEscape?_of_mem mem
      refine .silent (show _ = ([], Scan.escape before) from rfl) (.one ?_)
      simp [Scan.step, Scan.inEscape, notUnit, short]
  | @unit a b c d _ _ _ _ ha hb hc hd =>
      have value : 4096 * a.val + 256 * b.val + 16 * c.val + d.val =
          16 * (16 * (16 * (16 * 0 + a.val) + b.val) + c.val) + d.val := by omega
      rw [value]
      refine .silent (show _ = ([], Scan.escape before) from rfl) ?_
      refine .silent (show _ = ([], Scan.hex before 4 0) from rfl) ?_
      exact .silent (Scan.inHex_digit ha _ _ _) (.silent (Scan.inHex_digit hb _ _ _)
        (.silent (Scan.inHex_digit hc _ _ _) (.one (Scan.inHex_digit hd _ _ _))))

theorem Literal.Written.yields {literal : Literal} {bytes : List UInt8} (h : literal.Written bytes)
    (before : List Piece) :
    Yields (.string before) bytes [] (.string (literal.reverse ++ before)) := by
  induction h generalizing before with
  | nil => exact .nil
  | cons first _ ih =>
      rw [List.reverse_cons, List.append_assoc]
      exact (first.yields before).append (ih _)

/-- A string is a closed token. -/
theorem Literal.Written.yields_text {literal : Literal} {bytes : List UInt8}
    (h : literal.Written bytes) : Yields .gap (quotedBytes bytes) [.text literal] .gap := by
  have inside := h.yields []
  rw [List.append_nil] at inside
  have quote : (Scan.string literal.reverse).step (byteOf '"') = ([.text literal], .gap) := by
    rw [Scan.step, Scan.inString, if_pos (beq_self_eq_true _), List.reverse_reverse]
  exact .silent (show _ = ([], Scan.string []) by decide) (inside.append (.one quote))

theorem yields_null : Yields .gap (ascii "null") [.null] .gap :=
  .silent (show _ = ([], Scan.word (ascii "ull") .null) by decide)
    (.silent rfl (.silent rfl (.one rfl)))

theorem yields_true : Yields .gap (ascii "true") [.bool true] .gap :=
  .silent (show _ = ([], Scan.word (ascii "rue") (.bool true)) by decide)
    (.silent rfl (.silent rfl (.one rfl)))

theorem yields_false : Yields .gap (ascii "false") [.bool false] .gap :=
  .silent (show _ = ([], Scan.word (ascii "alse") (.bool false)) by decide)
    (.silent rfl (.silent rfl (.silent rfl (.one rfl))))

/-! ## Trees -/

namespace Tree

/-- The comma before further elements or members. -/
def separator : ∀ {part : Part}, Tree part → List Token
  | _, .cons _ _ => [.comma]
  | _, .member _ _ _ => [.comma]
  | _, _ => []

/-- The tokens of a tree.  A fault is a token, too, but a missing key has none. -/
def tokens : ∀ {part : Part}, Tree part → List Token
  | _, .fault => [.fault]
  | _, .null => [.null]
  | _, .bool value => [.bool value]
  | _, .number numeral => [.number numeral]
  | _, .text literal => [.text literal]
  | _, .array items => .openArray :: (items.tokens ++ [.closeArray])
  | _, .object members => .openObject :: (members.tokens ++ [.closeObject])
  | _, .nil => []
  | _, .cons head tail => head.tokens ++ (tail.separator ++ tail.tokens)
  | _, .done => []
  | _, .member key value tail =>
    .text key :: .colon :: (value.tokens ++ (tail.separator ++ tail.tokens))
  | _, .keyless => []

/-- Further elements or members after what was spelled before them. -/
theorem spells_tail {part : Part} (list : part ≠ .value) {tail : Tree part}
    {bytes after others : List UInt8} {before : List Token} (written : Written tail others)
    (first : Spells bytes before) (blanks : AreBlanks after) (later : Spells others tail.tokens) :
    Spells (bytes ++ (tail.comma ++ after ++ others))
      (before ++ (tail.separator ++ tail.tokens)) := by
  have comma : Spells (bytes ++ [byteOf ','] ++ after ++ others)
      (before ++ [.comma] ++ tail.tokens) := by
    have closed := first.delimiter (show byteOf ',' ∈ delimiters by decide)
      (show Scan.start (byteOf ',') = ([.comma], .gap) by decide)
    have closed := closed.append blanks.yields
    rw [List.append_nil] at closed
    exact .after closed later
  cases written with
  | cons | member => simpa [Tree.comma, separator, List.append_assoc] using comma
  | nil | done => simpa [Tree.comma, separator, tokens] using first.blanks blanks
  | null | true | false | number | text | array | object => exact absurd rfl list

/-- A bracket around what was spelled. -/
theorem yields_bracket {opening closing : UInt8} {start stop : Token} {gap bytes : List UInt8}
    {inside : List Token} (first : Scan.start opening = ([start], .gap))
    (last : Scan.start closing = ([stop], .gap)) (mem : closing ∈ delimiters)
    (blanks : AreBlanks gap) (h : Spells bytes inside) :
    Yields .gap (opening :: (gap ++ bytes ++ [closing])) (start :: (inside ++ [stop])) .gap := by
  have content : Spells (gap ++ bytes) inside := .after blanks.yields h
  exact .cons (show Scan.gap.step opening = ([start], .gap) from first)
    (content.delimiter mem last)

/-- A spelling of a tree spells its tokens. -/
theorem Written.spells {part : Part} {tree : Tree part} {bytes : List UInt8}
    (h : tree.Written bytes) : Spells bytes tree.tokens := by
  induction h with
  | null => exact .closed yields_null
  | true => exact .closed yields_true
  | false => exact .closed yields_false
  | number h => exact h.spells
  | text h => exact .closed h.yields_text
  | array blanks _ ih =>
      exact .closed (yields_bracket (by decide) (by decide) (by decide) blanks ih)
  | object blanks _ ih =>
      exact .closed (yields_bracket (by decide) (by decide) (by decide) blanks ih)
  | nil | done => exact .closed .nil
  | cons _ blanks₁ blanks₂ later ih ih' =>
      exact spells_tail (by decide) later (ih.blanks blanks₁) blanks₂ ih'
  | member first blanks₁ blanks₂ _ blanks₃ blanks₄ later ih ih' =>
      have key := first.yields_text.append blanks₁.yields
      have colon : Yields .gap [byteOf ':'] [.colon] .gap := .one (by decide)
      have entry := (key.append colon).append blanks₂.yields
      have value := Spells.after entry ih
      have all := spells_tail (by decide) later (value.blanks blanks₃) blanks₄ ih'
      simpa [tokens, List.append_assoc] using all

end Tree

end SchemaDto.Json
