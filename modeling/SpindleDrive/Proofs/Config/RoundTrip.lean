import SpindleDrive.Config.Document
import SpindleDrive.Proofs.Config.Validation
import SpindleDrive.Proofs.Toml.Speeds

/-!
# Writing a configuration and reading it

A configuration that is accepted can be written to a document and read from it.  All settings come
back as they were, but for the ratio: it is written in digits that are enough for one rounding and
is read through two, and of all the numbers that it can be, one comes back as the next.

* `lines` — the lines of the document, with the values that they are read as.
* `isReadable_lines`, `ofTable_lines` — each line is read back, and so is each setting.
* `ofText_toText_reread` — what comes back, the ratio being the one of both roundings.
* **`ofText_toText`** — all but one ratio come back as they were, `ofText_toText_ne` — that one.
-/

namespace SpindleDrive

/-! ## The ratio -/

namespace Binary32

/-- The finite numbers above zero, by their codes. -/
lemma exists_eq_ofCode {x : Binary32} (h : x.isFinite = true ∧ x.isPositive = true) :
    ∃ code, x = ofCode false (code + 1) ∧ code + 1 < infinityCode := by
  obtain ⟨hfinite, hpositive⟩ := h
  cases x with
  | nan => cases hfinite
  | signed negative code hcode =>
      have hless : code < infinityCode := of_decide_eq_true hfinite
      have habove : (0 : Int) < place negative code := of_decide_eq_true hpositive
      cases negative with
      | true =>
          simp [place] at habove
          omega
      | false =>
          simp only [place, Bool.false_eq_true, if_false] at habove
          obtain ⟨code, rfl⟩ := Nat.exists_eq_succ_of_ne_zero (show code ≠ 0 by omega)
          exact ⟨code, by simp [ofCode, Nat.min_eq_left hless.le], hless⟩

lemma ofCode_inj {a b : Nat} (ha : a ≤ infinityCode) (hb : b ≤ infinityCode) :
    ofCode false a = ofCode false b ↔ a = b := by
  simp [ofCode, Nat.min_eq_left ha, Nat.min_eq_left hb]

end Binary32

/-! ## The values of settings -/

namespace TomlValue

lemma natBelow_integer {bound n : Nat} (h : n < bound) : natBelow bound (.integer n) = some n := by
  rw [natBelow, if_pos (by omega), Int.toNat_natCast]

lemma byte?_integer (byte : UInt8) : byte? (.integer byte.toNat) = some byte := by
  rw [byte?, natBelow_integer byte.toNat_lt, Option.map_some, UInt8.ofNat_toNat]

lemma uint32?_integer (n : UInt32) : uint32? (.integer n.toNat) = some n := by
  rw [uint32?, natBelow_integer n.toNat_lt, Option.map_some, UInt32.ofNat_toNat]

lemma uint64?_integer (n : UInt64) : uint64? (.integer n.toNat) = some n := by
  rw [uint64?, natBelow_integer n.toNat_lt, Option.map_some, UInt64.ofNat_toNat]

lemma flag?_flag (b : Bool) : flag? (.flag b) = some b := rfl

lemma bytes?_array (bytes : List UInt8) :
    bytes? (.array false ((bytes.map UInt8.toNat).map fun n : Nat => .integer n)) =
      some bytes := by
  rw [bytes?]
  induction bytes with
  | nil => rfl
  | cons byte bytes ih =>
      simp only [List.map_cons, List.mapM_cons, byte?_integer, ih]
      rfl

end TomlValue

namespace Config

/-! ## The document -/

variable {c : Config} {speed : TomlValue}

/-- The lines of a configuration's document, with the values that they are read as; that of the
ratio is given. -/
def lines (c : Config) (speed : TomlValue) : List Toml.Written :=
  [{ key := "profile", text := Toml.ofPlainText c.model.configName
     value := .text c.model.configName },
   { key := "rpm_per_hz", text := Toml.ofBinary32 c.rpmPerHz, value := speed },
   { key := "retries", text := Toml.ofNat c.retries.toNat, value := .integer c.retries.toNat },
   { key := "poll_interval_ms", text := Toml.ofNat c.pollInterval.toNat
     value := .integer c.pollInterval.toNat },
   { key := "addresses", text := Toml.ofNats (c.addresses.map UInt8.toNat)
     value := .array false ((c.addresses.map UInt8.toNat).map fun n : Nat => .integer n) },
   { key := "query_max_rpm_on_select", text := Toml.ofFlag c.queryMaxOnSelect
     value := .flag c.queryMaxOnSelect }]

/-- The keys of the settings. -/
def keys : List String :=
  ["profile", "rpm_per_hz", "retries", "poll_interval_ms", "addresses", "query_max_rpm_on_select"]

lemma keys_lines (c : Config) (speed : TomlValue) : (c.lines speed).map (·.key) = keys := rfl

lemma nodup_keys : keys.Nodup := by decide

lemma toList_toText (c : Config) (speed : TomlValue) :
    c.toText.toList = Toml.document (c.lines speed) := by
  simp [toText, lines, Toml.document]

/-- **Each line is read back**, if the ratio is. -/
lemma isReadable_lines
    (h : Toml.IsScalarText (Toml.ofBinary32 c.rpmPerHz).toList speed) :
    ∀ w ∈ c.lines speed, w.IsReadable := by
  have hretries := c.retries.toNat_lt
  have hpoll := c.pollInterval.toNat_lt
  have hplain : ∀ x ∈ c.model.configName.toList, Toml.isPlain x = true :=
    List.all_eq_true.1 (by cases c.model <;> decide)
  have haddresses : ∀ n ∈ c.addresses.map UInt8.toNat, n < 2 ^ 128 := by
    intro n hn
    obtain ⟨address, -, rfl⟩ := List.mem_map.1 hn
    have hless := address.toNat_lt
    omega
  have hkeys : ∀ key ∈ keys, Toml.isBareKey key = true := by decide
  intro w hw
  refine ⟨hkeys w.key (keys_lines c speed ▸ List.mem_map_of_mem hw), ?_⟩
  simp only [lines, List.mem_cons, List.not_mem_nil, or_false] at hw
  obtain rfl | rfl | rfl | rfl | rfl | rfl := hw
  · exact Toml.isValueText_ofPlainText hplain _
  · exact h.isValueText _
  · exact Toml.isValueText_ofNat (by omega) _
  · exact Toml.isValueText_ofNat (by omega) _
  · exact Toml.isValueText_ofNats haddresses _
  · exact (Toml.isScalarText_ofFlag _).isValueText _

lemma setting_eq {α : Type} {t : TomlTable} {key : String} {read : TomlValue → Option α}
    {default a : α} {v : TomlValue} (hkey : t.lookup key = some v) (hread : read v = some a) :
    setting t key read default = .ok a := by
  simp [setting, hkey, hread]

/-- **All settings come back as they were**, the ratio as it is read. -/
lemma ofTable_lines {ratio : Binary32} (h : speed.binary32? = some ratio) :
    ofTable (Toml.entries (c.lines speed)) = .ok { c with rpmPerHz := ratio } := by
  have hnodup : ((c.lines speed).map (·.key)).Nodup := keys_lines c speed ▸ nodup_keys
  have hlookup : ∀ w ∈ c.lines speed, (Toml.entries (c.lines speed)).lookup w.key = some w.value :=
    fun w hw => Toml.lookup_entries hnodup hw
  generalize Toml.entries (c.lines speed) = t at *
  simp only [lines, List.forall_mem_cons] at hlookup
  obtain ⟨hmodel, hratio, hretries, hpoll, haddresses, hflag, -⟩ := hlookup
  rw [ofTable, setting_eq hmodel (DriveModel.ofConfigName?_configName c.model),
    setting_eq hratio h, setting_eq hretries (TomlValue.uint32?_integer c.retries),
    setting_eq hpoll (TomlValue.uint64?_integer c.pollInterval),
    setting_eq haddresses (TomlValue.bytes?_array c.addresses),
    setting_eq hflag (TomlValue.flag?_flag c.queryMaxOnSelect)]
  rfl

lemma ofText_eq_ok {text : String} {t : TomlTable} (htable : Toml.table? text = some t)
    (hsettings : ofTable t = .ok c) (hvalid : c.validate = .ok ()) : ofText text = .ok c := by
  rw [ofText, htable]
  dsimp only
  rw [hsettings]
  change (c.validate >>= fun _ => .ok c) = _
  rw [hvalid]
  rfl

/-- **The text of a configuration is read as the configuration**, with the ratio of both
roundings. -/
lemma ofText_toText_reread {code : Nat} (h : c.validate = .ok ())
    (hratio : c.rpmPerHz = .ofCode false (code + 1)) (hfinite : code + 1 < infinityCode) :
    ofText c.toText =
      .ok { c with rpmPerHz := .ofCode false (Binary32.rereadCode (code + 1)) } := by
  obtain ⟨x, hscalar, hspeed⟩ := Toml.exists_isScalarText_ofCode hfinite
  have htext : Toml.ofBinary32 c.rpmPerHz = Toml.ofCode (code + 1) := by
    have hne : ¬code + 1 = infinityCode := hfinite.ne
    simp [hratio, Binary32.ofCode, Toml.ofBinary32, Nat.min_eq_left hfinite.le, hne]
  rw [← htext] at hscalar
  have htable := Toml.table?_document (toList_toText c _) (isReadable_lines hscalar)
    (keys_lines c _ ▸ nodup_keys)
  obtain ⟨hvalid, hothers⟩ := validate_eq_ok_iff.1 h
  refine ofText_eq_ok htable (ofTable_lines (congrArg some hspeed))
    (validate_eq_ok_iff.2 ⟨?_, hothers⟩)
  rw [Binary32.rereadCode_eq hfinite]
  split
  · exact ⟨rfl, rfl⟩
  · rwa [← hratio]

/-- **What comes back** of a configuration that is accepted: itself, unless its ratio is the one
that comes back as the next. -/
theorem ofText_toText (h : c.validate = .ok ()) :
    ofText c.toText = .ok
      (if c.rpmPerHz = .ofCode false 0x15AE43FD then
        { c with rpmPerHz := .ofCode false 0x15AE43FE }
      else c) := by
  obtain ⟨code, hratio, hfinite⟩ := Binary32.exists_eq_ofCode (ratio_of_validate h)
  have hexceptional : c.rpmPerHz = .ofCode false 0x15AE43FD ↔ code + 1 = Binary32.exception := by
    rw [hratio]
    exact Binary32.ofCode_inj hfinite.le (by decide)
  rw [ofText_toText_reread h hratio hfinite, Binary32.rereadCode_eq hfinite]
  by_cases hcode : code + 1 = Binary32.exception
  · rw [if_pos hcode, if_pos (hexceptional.2 hcode)]
    rfl
  · rw [if_neg hcode, if_neg (hexceptional.not.2 hcode), ← hratio]

/-- The smallest ratio that there is, with the other settings at their ends. -/
def extreme : Config where
  model := .gs20
  rpmPerHz := .ofCode false 1
  retries := 0xFFFFFFFF
  pollInterval := 0xFFFFFFFFFFFFFFFF
  addresses := [247, 1, 2]
  queryMaxOnSelect := true

theorem ofText_toText_extreme :
    extreme.validate = .ok () ∧ ofText extreme.toText = .ok extreme := by
  have hvalid : extreme.validate = .ok () := by decide
  have hread := ofText_toText hvalid
  rw [if_neg (by decide)] at hread
  exact ⟨hvalid, hread⟩

/-- **One ratio comes back as the next.** -/
theorem ofText_toText_ne :
    validate { rpmPerHz := .ofCode false 0x15AE43FD } = .ok () ∧
      ofText (toText { rpmPerHz := .ofCode false 0x15AE43FD }) =
        .ok { rpmPerHz := .ofCode false 0x15AE43FE } ∧
      ofText (toText { rpmPerHz := .ofCode false 0x15AE43FD }) ≠
        .ok { rpmPerHz := .ofCode false 0x15AE43FD } := by
  have hvalid : validate { rpmPerHz := .ofCode false 0x15AE43FD } = .ok () := by decide
  have hfinite : 0x15AE43FC + 1 < infinityCode := by decide
  have hread := ofText_toText_reread hvalid rfl hfinite
  have hcode : Binary32.rereadCode (0x15AE43FC + 1) = 0x15AE43FE := Binary32.rereadCode_exception
  rw [hcode] at hread
  refine ⟨hvalid, hread, fun hsame => ?_⟩
  have hratio := congrArg rpmPerHz (Except.ok.inj (hread.symm.trans hsame))
  exact absurd hratio (by decide)

end Config

end SpindleDrive
