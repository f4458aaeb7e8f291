import SpindleDrive.Proofs.Toml.Numerals
import SpindleDrive.Toml.Document
import SpindleDrive.Toml.Writing

/-!
# Reading what was written

A written value is followed by a line end, a comma or a bracket, and a reader stops there.  This
file shows of each kind of written value that it is read back wherever it stands, and of a document
of such lines that its table is the list of its keys with their values.

* `IsValueText` — a text that is read as a value wherever it stands.
* `IsScalarText.isValueText`, `isValueText_ofPlainText`, `isValueText_joined` — scalars, quoted
  texts, and arrays of scalars are.
* `IsReadable.readStatement_line` — a line says what it was written for.
* `readLines_document` — lines are carried out one by one.
* **`table?_document`** — the table of a document, `lookup_entries` — what is found in it.
-/

namespace SpindleDrive

namespace Toml

variable {c e : Char} {text more : List Char} {v : TomlValue} {depth : Nat}

/-! ## Ends -/

/-- The characters that follow a written value. -/
def isEnd (c : Char) : Bool := c = '\n' || c = ',' || c = ']'

lemma eq_of_isEnd (h : isEnd c = true) : c = '\n' ∨ c = ',' ∨ c = ']' := by
  simpa [isEnd, or_assoc] using h

lemma isScalarChar_of_isEnd (h : isEnd c = true) : isScalarChar c = false := by
  obtain rfl | rfl | rfl := eq_of_isEnd h <;> rfl

/-! ## Values -/

/-- A text that is read as a value wherever an end follows. -/
structure IsValueText (depth : Nat) (text : List Char) (v : TomlValue) : Prop where
  start : ∃ c rest, text = c :: rest ∧ isBlank c = false
  read : ∀ e more, isEnd e = true → readValue depth (text ++ e :: more) = some (v, e :: more)

/-- A text without quotes that is read as a value. -/
structure IsScalarText (text : List Char) (v : TomlValue) : Prop where
  ne_nil : text ≠ []
  isScalarChar : ∀ c ∈ text, isScalarChar c = true
  value : scalar? text = some v

/-- What begins without a quote, a bracket and a brace holds no other value. -/
lemma readValue_of_isScalarChar (hc : isScalarChar c = true) (depth : Nat) (text : List Char) :
    readValue depth (c :: text) = readScalar (c :: text) := by
  have hne (d : Char) (hd : isScalarChar d = false) : c ≠ d := ne_of_kind hc hd
  have hquoted : quotedText (c :: text) = none := by
    simp [quotedText, hne '"' rfl, hne '\'' rfl]
  have hplain : readPlain (c :: text) = readScalar (c :: text) := by
    simp [readPlain, hquoted]
  cases depth with
  | zero => exact hplain
  | succ depth => simp [readValue, hne '[' rfl, hne '{' rfl, hplain]

namespace IsScalarText

lemma start (h : IsScalarText text v) :
    ∃ c rest, text = c :: rest ∧ Toml.isScalarChar c = true := by
  obtain ⟨c, rest, rfl⟩ := List.exists_cons_of_ne_nil h.ne_nil
  exact ⟨c, rest, rfl, h.isScalarChar c (List.mem_cons_self ..)⟩

lemma readScalar_append (h : IsScalarText text v) (he : isEnd e = true) :
    readScalar (text ++ e :: more) = some (v, e :: more) := by
  have hstop : ¬Toml.isScalarChar e = true := by simp [isScalarChar_of_isEnd he]
  have hspace : e ≠ ' ' := by obtain rfl | rfl | rfl := eq_of_isEnd he <;> decide
  simp only [readScalar, List.takeWhile_append_of_pos h.isScalarChar,
    List.dropWhile_append_of_pos h.isScalarChar, List.takeWhile_cons_of_neg hstop,
    List.dropWhile_cons_of_neg hstop, List.append_nil]
  simp [hspace, h.value]

/-- A scalar is read wherever it stands. -/
lemma isValueText (h : IsScalarText text v) (depth : Nat) : IsValueText depth text v := by
  obtain ⟨c, rest, rfl, hc⟩ := h.start
  refine ⟨⟨c, rest, rfl, ?_⟩, fun e more he => ?_⟩
  · simp [isBlank, ne_of_kind hc (show Toml.isScalarChar ' ' = false by rfl),
      ne_of_kind hc (show Toml.isScalarChar '\t' = false by rfl)]
  · rw [List.cons_append, readValue_of_isScalarChar hc, ← List.cons_append,
      h.readScalar_append he]

end IsScalarText

lemma isScalarChar_of_isDigit (hc : c.isDigit = true) : isScalarChar c = true := by
  simp [isScalarChar, Char.isAlphanum, hc]

lemma isScalarText_toDigits {n : Nat} (hn : n < 2 ^ 128) :
    IsScalarText (Nat.toDigits 10 n) (.integer n) where
  ne_nil := Nat.toDigits_ne_nil
  isScalarChar c hc :=
    isScalarChar_of_isDigit (Nat.isDigit_of_mem_toDigits (by decide) (by decide) hc)
  value := by
    rw [scalar?_numeral (isNumeral_toDigits n), Nat.ofDigitChars_toDigits (by decide) (by decide),
      integer?, if_pos]
    omega

lemma isValueText_ofNat {n : Nat} (hn : n < 2 ^ 128) (depth : Nat) :
    IsValueText depth (ofNat n).toList (.integer n) := by
  have htext : (ofNat n).toList = Nat.toDigits 10 n := by simp [ofNat]
  rw [htext]
  exact (isScalarText_toDigits hn).isValueText depth

lemma isScalarText_point {whole fraction : List Char} (hwhole : IsNumeral whole)
    (hfraction : IsDigits fraction)
    (hfinite : (Decimal.ofDigits false whole fraction 0).overflowsDouble = false) :
    IsScalarText (whole ++ '.' :: fraction)
      (.float (.finite (.ofDigits false whole fraction 0))) where
  ne_nil := by simp
  isScalarChar c hc := by
    obtain hc | hc := List.mem_append.1 hc
    · exact isScalarChar_of_isDigit (hwhole.isDigit c hc)
    · obtain rfl | hc := List.mem_cons.1 hc
      · rfl
      · exact isScalarChar_of_isDigit (hfraction.isDigit c hc)
  value := by rw [scalar?_point hwhole hfraction, finite?, hfinite, if_neg Bool.false_ne_true]

lemma isScalarText_ofFlag (flag : Bool) : IsScalarText (ofFlag flag).toList (.flag flag) := by
  cases flag with
  | false => exact ⟨by decide, List.all_eq_true.1 (by decide), rfl⟩
  | true => exact ⟨by decide, List.all_eq_true.1 (by decide), rfl⟩

/-! ## Quoted texts -/

/-- Whether a character stands for itself between double quotes. -/
def isPlain (c : Char) : Bool := !isControl c && c != '"' && c != '\\'

lemma basicText_append (h : ∀ c ∈ text, isPlain c = true) (more : List Char) :
    basicText (text ++ '"' :: more) = some (text, more) := by
  induction text with
  | nil => rfl
  | cons c rest ih =>
      have hc := h c (List.mem_cons_self ..)
      simp [isPlain] at hc
      have hrest := ih fun d hd => h d (List.mem_cons_of_mem c hd)
      simp [basicText, hc, hrest, prepend]

lemma quotedText_append (h : ∀ c ∈ text, isPlain c = true) (he : isEnd e = true) :
    quotedText ('"' :: (text ++ '"' :: e :: more)) = some (text, e :: more) := by
  have hbasic := basicText_append h (e :: more)
  cases text with
  | nil =>
      have hquote : e ≠ '"' := by obtain rfl | rfl | rfl := eq_of_isEnd he <;> decide
      simpa [quotedText, hquote] using hbasic
  | cons c rest =>
      have hc := h c (List.mem_cons_self ..)
      simp [isPlain] at hc
      simpa [quotedText, hc] using hbasic

/-- A plain text between quotes is read wherever it stands. -/
lemma isValueText_ofPlainText {s : String} (h : ∀ c ∈ s.toList, isPlain c = true) (depth : Nat) :
    IsValueText depth (ofPlainText s).toList (.text s) := by
  have htext : (ofPlainText s).toList = '"' :: (s.toList ++ ['"']) := by simp [ofPlainText]
  rw [htext]
  refine ⟨⟨_, _, rfl, rfl⟩, fun e more he => ?_⟩
  have hplain : readPlain ('"' :: (s.toList ++ '"' :: e :: more)) = some (.text s, e :: more) := by
    rw [readPlain, quotedText_append h he]
    simp
  rw [List.cons_append, List.append_assoc]
  cases depth with
  | zero => exact hplain
  | succ depth => exact hplain

/-! ## Arrays -/

lemma afterFiller_of_isScalarChar (hc : isScalarChar c = true) (text : List Char) :
    afterFiller false (c :: text) = some (c :: text) := by
  have hne (d : Char) (hd : isScalarChar d = false) : c ≠ d := ne_of_kind hc hd
  simp [afterFiller, isBlank, hne '\n' rfl, hne '\r' rfl, hne ' ' rfl, hne '\t' rfl, hne '#' rfl]

/-- The texts of values with a comma and a blank between them. -/
def joined (items : List (List Char × TomlValue)) : List Char :=
  [',', ' '].intercalate (items.map (·.1))

lemma joined_cons_cons (first second : List Char × TomlValue)
    (items : List (List Char × TomlValue)) :
    joined (first :: second :: items) = first.1 ++ ',' :: ' ' :: joined (second :: items) := by
  simp [joined, List.intercalate_cons_cons]

variable {items : List (List Char × TomlValue)}

lemma length_le_joined (h : ∀ item ∈ items, IsScalarText item.1 item.2) :
    items.length ≤ (joined items).length := by
  induction items with
  | nil => exact Nat.zero_le _
  | cons item items ih =>
      have hitem := List.length_pos_iff.2 (h item (List.mem_cons_self ..)).ne_nil
      cases items with
      | nil => simpa [joined] using Nat.succ_le_of_lt hitem
      | cons next items =>
          have hrest := ih fun x hx => h x (List.mem_cons_of_mem item hx)
          rw [joined_cons_cons]
          simp only [List.length_cons, List.length_append] at hrest ⊢
          omega

/-- A blank before the values is passed over. -/
lemma readItems_space (value : List Char → Option (WithRest TomlValue)) (fuel : Nat)
    (text : List Char) : readItems value fuel (' ' :: text) = readItems value fuel text := by
  cases fuel with
  | zero => rfl
  | succ fuel => simp [readItems, afterFiller, isBlank]

lemma readItems_last (h : IsScalarText text v) (fuel : Nat) :
    readItems (readValue depth) (fuel + 1) (text ++ ']' :: more) = some ([v], more) := by
  have hread := (h.isValueText depth).read ']' more rfl
  obtain ⟨c, rest, rfl, hc⟩ := h.start
  have hbracket : c ≠ ']' := ne_of_kind hc rfl
  rw [List.cons_append] at hread ⊢
  simp [readItems, afterFiller_of_isScalarChar hc, hbracket, hread, afterFiller, isBlank]

lemma readItems_next (h : IsScalarText text v) (fuel : Nat) :
    readItems (readValue depth) (fuel + 1) (text ++ ',' :: more) =
      (readItems (readValue depth) fuel more).map fun (items, rest) => (v :: items, rest) := by
  have hread := (h.isValueText depth).read ',' more rfl
  obtain ⟨c, rest, rfl, hc⟩ := h.start
  have hbracket : c ≠ ']' := ne_of_kind hc rfl
  rw [List.cons_append] at hread ⊢
  cases hmore : readItems (readValue depth) fuel more <;>
    simp [readItems, afterFiller_of_isScalarChar hc, hbracket, hread, afterFiller, isBlank, hmore]

/-- **Scalars between brackets are read one by one.** -/
lemma readItems_joined (h : ∀ item ∈ items, IsScalarText item.1 item.2) {fuel : Nat}
    (hfuel : items.length < fuel) :
    readItems (readValue depth) fuel (joined items ++ ']' :: more) =
      some (items.map (·.2), more) := by
  induction items generalizing fuel with
  | nil =>
      obtain ⟨fuel, rfl⟩ := Nat.exists_eq_succ_of_ne_zero (show fuel ≠ 0 by omega)
      simp [joined, readItems, afterFiller, isBlank]
  | cons item items ih =>
      obtain ⟨fuel, rfl⟩ := Nat.exists_eq_succ_of_ne_zero (show fuel ≠ 0 by omega)
      have hitem := h item (List.mem_cons_self ..)
      cases items with
      | nil => simpa [joined] using readItems_last hitem fuel
      | cons next items =>
          have hrest := ih (fun x hx => h x (List.mem_cons_of_mem item hx))
            (Nat.lt_of_succ_lt_succ hfuel)
          rw [joined_cons_cons, List.append_assoc, List.cons_append, List.cons_append,
            readItems_next hitem, readItems_space, hrest]
          rfl

/-- **An array of scalars is read wherever it stands.** -/
lemma isValueText_joined (h : ∀ item ∈ items, IsScalarText item.1 item.2) (depth : Nat) :
    IsValueText (depth + 1) ('[' :: (joined items ++ [']'])) (.array false (items.map (·.2))) := by
  refine ⟨⟨_, _, rfl, rfl⟩, fun e more _ => ?_⟩
  have htext : '[' :: (joined items ++ [']']) ++ e :: more =
      '[' :: (joined items ++ ']' :: e :: more) := by simp
  have hfuel : items.length < ('[' :: (joined items ++ ']' :: e :: more)).length := by
    have hitems := length_le_joined h
    simp only [List.length_cons, List.length_append]
    omega
  rw [htext]
  change Option.map _ (readItems (readValue depth) _ (joined items ++ ']' :: e :: more)) = _
  rw [readItems_joined h hfuel]
  rfl

/-- The text of an array of numbers is that of its scalars. -/
lemma toList_ofNats (ns : List Nat) :
    (ofNats ns).toList =
      '[' :: (joined (ns.map fun n : Nat => (Nat.toDigits 10 n, .integer n)) ++ [']']) := by
  simp [ofNats, joined, Function.comp_def]

lemma isValueText_ofNats {ns : List Nat} (h : ∀ n ∈ ns, n < 2 ^ 128) (depth : Nat) :
    IsValueText (depth + 1) (ofNats ns).toList
      (.array false (ns.map fun n : Nat => .integer n)) := by
  rw [toList_ofNats]
  have hitems : ∀ item ∈ ns.map fun n : Nat => (Nat.toDigits 10 n, TomlValue.integer n),
      IsScalarText item.1 item.2 := by
    simpa using fun n hn => isScalarText_toDigits (h n hn)
  simpa [Function.comp_def] using isValueText_joined hitems depth

/-! ## Lines -/

/-- What begins like a key is a pair. -/
lemma readContent_of_isKeyChar (hc : isKeyChar c = true) (text : List Char) :
    readContent (c :: text) =
      (readPair (some <| ·.dropWhile isBlank) (readValue maxDepth) (c :: text)).map
        fun ((path, key, v), rest) => (.pair path key v, rest) := by
  have hne (d : Char) (hd : isKeyChar d = false) : c ≠ d := ne_of_kind hc hd
  have hblank : isBlank c = false := by simp [isBlank, hne ' ' rfl, hne '\t' rfl]
  cases hpair : readPair (some <| ·.dropWhile isBlank) (readValue maxDepth) (c :: text) <;>
    simp [readContent, hblank, hne '[' rfl, hne '\n' rfl, hne '\r' rfl, hne '#' rfl, hpair]

/-- Whether a key needs no quotes. -/
def isBareKey (key : String) : Bool := !key.toList.isEmpty && key.toList.all isKeyChar

/-- A key, the text of its value, and the value that the text is read as. -/
structure Written where
  key : String
  text : String
  value : TomlValue

namespace Written

/-- A key that needs no quotes, and a value that is read wherever it stands. -/
structure IsReadable (w : Written) : Prop where
  key : isBareKey w.key = true
  value : IsValueText maxDepth w.text.toList w.value

variable {w : Written}

namespace IsReadable

lemma key_ne (h : w.IsReadable) : w.key.toList ≠ [] := by
  have hkey := h.key
  simp only [isBareKey, Bool.and_eq_true, Bool.not_eq_true', List.isEmpty_eq_false_iff] at hkey
  exact hkey.1

lemma keyChar (h : w.IsReadable) : ∀ c ∈ w.key.toList, isKeyChar c = true := by
  have hkey := h.key
  simp only [isBareKey, Bool.and_eq_true, List.all_eq_true] at hkey
  exact hkey.2

lemma start (h : w.IsReadable) : ∃ c rest, w.key.toList = c :: rest ∧ isKeyChar c = true := by
  obtain ⟨c, rest, hkey⟩ := List.exists_cons_of_ne_nil h.key_ne
  exact ⟨c, rest, hkey, h.keyChar c (by simp [hkey])⟩

/-- A key without quotes is read up to the blank after it. -/
lemma readKey_append (h : w.IsReadable) (more : List Char) :
    readKey (w.key.toList ++ ' ' :: '=' :: more) = some (([], w.key), '=' :: more) := by
  have hstop : ¬isKeyChar ' ' = true := by decide
  have hpart : readKeyPart (w.key.toList ++ ' ' :: '=' :: more) =
      some (w.key, ' ' :: '=' :: more) := by
    have htake : (w.key.toList ++ ' ' :: '=' :: more).takeWhile isKeyChar = w.key.toList := by
      rw [List.takeWhile_append_of_pos h.keyChar, List.takeWhile_cons_of_neg hstop,
        List.append_nil]
    have hdrop : (w.key.toList ++ ' ' :: '=' :: more).dropWhile isKeyChar =
        ' ' :: '=' :: more := by
      rw [List.dropWhile_append_of_pos h.keyChar, List.dropWhile_cons_of_neg hstop]
    obtain ⟨c, rest, hkey, hc⟩ := h.start
    rw [readKeyPart, htake, hdrop, if_neg h.key_ne, String.ofList_toList]
    · rintro more hquote
      rw [hkey] at hquote
      exact ne_of_kind hc rfl (List.cons.inj hquote).1
    · rintro more hquote
      rw [hkey] at hquote
      exact ne_of_kind hc rfl (List.cons.inj hquote).1
  rw [readKey, maxDepth, readParts, hpart]
  simp [isBlank]

lemma readPair_line (h : w.IsReadable) (more : List Char) :
    readPair (some <| ·.dropWhile isBlank) (readValue maxDepth)
        (w.key.toList ++ ' ' :: '=' :: ' ' :: (w.text.toList ++ '\n' :: more)) =
      some (([], w.key, w.value), '\n' :: more) := by
  have hname := h.readKey_append (' ' :: (w.text.toList ++ '\n' :: more))
  have hread := h.value.read '\n' more rfl
  have hstart : (w.text.toList ++ '\n' :: more).dropWhile isBlank =
      w.text.toList ++ '\n' :: more := by
    obtain ⟨d, value, hvalue, hd⟩ := h.value.start
    rw [hvalue, List.cons_append, List.dropWhile_cons_of_neg (by simp [hd])]
  have hspace : isBlank ' ' = true := rfl
  have hequals : isBlank '=' = false := rfl
  generalize w.text.toList ++ '\n' :: more = tail at *
  simp [readPair, hname, hequals, hspace, hstart, hread]

/-- **A line says what it was written for.** -/
lemma readStatement_line (h : w.IsReadable) (more : List Char) :
    readStatement ((line w.key w.text).toList ++ more) = some (.pair [] w.key w.value, more) := by
  obtain ⟨c, rest, hkey, hc⟩ := h.start
  have hpair := h.readPair_line more
  have htext : (line w.key w.text).toList ++ more =
      w.key.toList ++ ' ' :: '=' :: ' ' :: (w.text.toList ++ '\n' :: more) := by
    simp [line]
  have hend : afterLine ('\n' :: more) = some more := by simp [afterLine, isBlank]
  rw [htext, readStatement]
  rw [hkey, List.cons_append] at hpair ⊢
  rw [readContent_of_isKeyChar hc, hpair]
  simp [hend]

end IsReadable

end Written

/-! ## Documents -/

/-- Below no header, a key that is not there yet is put at the end of the table. -/
lemma carryOut_pair {t : TomlTable} {key : String} (h : t.lookup key = none) :
    carryOut [] t (.pair [] key v) = some ([], t ++ [(key, v)]) := by
  simp [carryOut, TomlTable.insertBelow, TomlTable.insertPath, TomlTable.changeAt,
    TomlTable.insertNew, h]

/-- The text of lines. -/
def document (lines : List Written) : List Char :=
  lines.flatMap fun w => (line w.key w.text).toList

/-- The table that lines are read as. -/
def entries (lines : List Written) : TomlTable := lines.map fun w => (w.key, w.value)

variable {lines : List Written}

/-- A key that stands once is found with its value. -/
lemma lookup_entries (hkeys : (lines.map (·.key)).Nodup) {w : Written} (hw : w ∈ lines) :
    (entries lines).lookup w.key = some w.value := by
  induction lines with
  | nil => simp at hw
  | cons first lines ih =>
      obtain ⟨hnew, hkeys⟩ := List.nodup_cons.1 hkeys
      obtain rfl | hw := List.mem_cons.1 hw
      · simp [entries]
      · have hne : (w.key == first.key) = false := by
          exact beq_eq_false_iff_ne.2 fun hequal => hnew (List.mem_map.2 ⟨w, hw, hequal⟩)
        have hrest := ih hkeys hw
        simpa only [entries, List.map_cons, List.lookup_cons, hne] using hrest

lemma length_le_document (lines : List Written) : lines.length ≤ (document lines).length := by
  induction lines with
  | nil => exact Nat.zero_le _
  | cons w lines ih =>
      have hline : 0 < (line w.key w.text).toList.length := by
        simp only [line, String.toList_append, List.length_append]
        exact Nat.lt_add_left _ Nat.one_pos
      simp only [document, List.flatMap_cons, List.length_append, List.length_cons] at ih ⊢
      omega

/-- **Lines are carried out one by one**, each putting its key at the end of the table. -/
lemma readLines_document (h : ∀ w ∈ lines, w.IsReadable) {fuel : Nat}
    (hfuel : lines.length < fuel) {t : TomlTable}
    (hkeys : (t.map (·.1) ++ lines.map (·.key)).Nodup) :
    readLines fuel [] t (document lines) = some (t ++ entries lines) := by
  induction lines generalizing fuel t with
  | nil =>
      obtain ⟨fuel, rfl⟩ := Nat.exists_eq_succ_of_ne_zero (show fuel ≠ 0 by omega)
      simp [document, entries, readLines]
  | cons w lines ih =>
      obtain ⟨fuel, rfl⟩ := Nat.exists_eq_succ_of_ne_zero (show fuel ≠ 0 by omega)
      have hw := h w (List.mem_cons_self ..)
      have hnew : t.lookup w.key = none := by
        refine List.lookup_eq_none_iff.2 fun entry hentry => ?_
        have hapart := (List.nodup_append.1 hkeys).2.2 _ (List.mem_map_of_mem hentry) w.key
          (List.mem_cons_self ..)
        simpa using hapart.symm
      have hstatement := hw.readStatement_line (document lines)
      have hrest := ih (fun x hx => h x (List.mem_cons_of_mem w hx)) (Nat.lt_of_succ_lt_succ hfuel)
        (t := t ++ [(w.key, w.value)]) (by simpa using hkeys)
      have htext : document (w :: lines) = (line w.key w.text).toList ++ document lines := rfl
      rw [htext, readLines, hstatement]
      · simp [carryOut_pair hnew, hrest, entries]
      · simp [line]

/-- **The table of a document** is the list of its keys with their values. -/
theorem table?_document {text : String} (htext : text.toList = document lines)
    (h : ∀ w ∈ lines, w.IsReadable) (hkeys : (lines.map (·.key)).Nodup) :
    table? text = some (entries lines) := by
  have hmark : afterMark (document lines) = document lines := by
    cases lines with
    | nil => rfl
    | cons w lines =>
        obtain ⟨c, rest, hkey, hc⟩ := (h w (List.mem_cons_self ..)).start
        have hstart : document (w :: lines) =
            c :: (rest ++ (" = " ++ w.text ++ "\n").toList ++ document lines) := by
          simp [document, line, hkey]
        have hne : c ≠ '\uFEFF' := ne_of_kind hc rfl
        simp [hstart, afterMark, hne]
  have hfuel : lines.length < (document lines).length + 1 :=
    Nat.lt_succ_of_le (length_le_document lines)
  have hread := readLines_document h hfuel (t := []) (by simpa using hkeys)
  rw [table?, htext, hmark]
  simpa using hread

end Toml

end SpindleDrive
