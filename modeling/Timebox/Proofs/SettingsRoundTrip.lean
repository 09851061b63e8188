import Mathlib
import Timebox.Settings.Write
import Timebox.Proofs.FileTree

/-! # JSON settings files read back by a YAML reader

`Settings.write` writes a `.json` settings file as JSON, and `Settings.load` reads every
settings file, JSON ones included, with the YAML reader. JSON leaves most characters of a
string as they are, escaping only the quote, the backslash, the controls below space, the line
and paragraph separators and `<`, `>`, `&`. The YAML reader refuses a text that holds, anywhere,
a character outside its allowed set (`Yaml.allowedChar`). The characters in neither list
(`Settings.RawRefused`: delete, the C1 controls other than next line, and the non-characters
U+FFFE and U+FFFF) pass the writer as they are and stop the reader.

Main statement: `json_write_then_load_refused`. Settings whose numbers are finite are written
to a `.json` file wherever a file can be written; when one of their texts (`Settings.texts`)
holds such a character, loading that file back fails with the reader's error, so the settings
do not survive the round trip. `del_output_encoding_json_not_reloaded` is the default settings
with a delete as output encoding, which the rules accept.
-/

namespace Timebox

theorem List.mem_intercalate_of_mem {α : Type} {sep : List α} {ls : List (List α)} {l : List α}
    (hl : l ∈ ls) {a : α} (ha : a ∈ l) : a ∈ sep.intercalate ls := by
  induction ls with
  | nil => simp at hl
  | cons x rest ih =>
    cases rest with
    | nil =>
      simp only [List.mem_singleton] at hl
      subst hl
      simpa using ha
    | cons y rest =>
      rw [List.intercalate_cons_cons]
      rcases List.mem_cons.1 hl with rfl | hl
      · exact List.mem_append_left _ (List.mem_append_left _ ha)
      · exact List.mem_append_right _ (ih hl)

/-- A successful step of `Except` passes its value on. -/
theorem Except.ok_bind {ε α β : Type} (a : α) (f : α → Except ε β) :
    (Except.ok a >>= f) = f a := rfl

namespace Text

theorem equalFold_self (s : String) : equalFold s s = true := by
  -- a list zipped with itself pairs each character with itself
  have hzip : ∀ (l : List Char) (a b : Char), (a, b) ∈ l.zip l → a = b := by
    intro l
    induction l with
    | nil => simp
    | cons c l ih =>
      rintro a b (⟨⟩ | ⟨_, h⟩)
      · rfl
      · exact ih a b h
  simpa [equalFold] using fun a b h => congrArg foldKey (hzip _ a b h)

end Text

namespace Json

/-- A character the escaper leaves as it is stands in the string literal. -/
theorem mem_quote {html : Bool} {s : String} {c : Char} (hc : c ∈ s.toList)
    (hraw : escapeChar html c = c.toString) : c ∈ (quote html s).toList := by
  simp only [quote, String.toList_append, String.toList_join]
  refine List.mem_append_left _ (List.mem_append_right _ (List.mem_flatMap.2
    ⟨escapeChar html c, List.mem_map_of_mem hc, ?_⟩))
  simp [hraw]

end Json

namespace Yaml

/-- A text holding a character the reader does not allow is refused before it is parsed. -/
theorem compose_of_refused {text : String} {c : Char} (hc : c ∈ text.toList)
    (hbad : allowedChar c = false) :
    compose text =
      .error (.malformed { layer := .reader, problem := "control characters are not allowed" }) := by
  unfold compose
  rw [if_pos]
  simp only [Bool.not_eq_true', List.all_eq_false]
  exact ⟨c, hc, by simp [hbad]⟩

end Yaml

namespace Settings

/-- The texts of settings, each written as a string of a settings file. -/
def texts (s : Settings) : List String :=
  [s.outputEncoding, s.logger.filePath, s.logger.errorFilePath, s.logger.fileEncoder,
    s.logger.fileLevel, s.logger.consoleLevel, s.metrics.namespaceName, s.metrics.subsystem,
    s.metrics.listen]

/-- The characters a JSON file holds as they are and a YAML reader refuses: delete, the C1
controls other than next line, and the two non-characters at the end of the basic plane. -/
def RawRefused (c : Char) : Prop :=
  (0x7F ≤ c.toNat ∧ c.toNat ≤ 0x9F ∧ c.toNat ≠ 0x85) ∨ c.toNat = 0xFFFE ∨ c.toNat = 0xFFFF

instance (c : Char) : Decidable (RawRefused c) :=
  inferInstanceAs (Decidable ((_ ∧ _ ∧ _) ∨ _ ∨ _))

theorem escapeChar_of_rawRefused {c : Char} (hc : RawRefused c) :
    Json.escapeChar true c = c.toString := by
  unfold RawRefused at hc
  -- every character JSON escapes lies below delete, or is a line or paragraph separator
  have hlow : ∀ d : Char, d.toNat < 0x7F → c ≠ d := fun d hd h => by subst h; omega
  unfold Json.escapeChar
  rw [if_neg (hlow _ (by decide)), if_neg (hlow _ (by decide)), if_neg (hlow _ (by decide)),
    if_neg (hlow _ (by decide)), if_neg (hlow _ (by decide)), if_neg (by omega), if_neg]
  rintro ⟨-, h | h | h⟩ <;> exact hlow _ (by decide) h

theorem allowedChar_of_rawRefused {c : Char} (hc : RawRefused c) : Yaml.allowedChar c = false := by
  unfold RawRefused at hc
  simp only [Yaml.allowedChar, decide_eq_false_iff_not]
  omega

theorem mem_jsonObject {pad : String} {members : List (String × String)} (k : String) {v : String}
    (hm : (k, v) ∈ members) {c : Char} (hc : c ∈ v.toList) :
    c ∈ (jsonObject pad members).toList := by
  simp only [jsonObject, String.toList_append, String.toList_intercalate]
  refine List.mem_append_left _ (List.mem_append_left _ (List.mem_append_left _
    (List.mem_append_right _ (List.mem_intercalate_of_mem (l := ?_) ?_ ?_))))
  · exact (pad ++ "  " ++ Json.quote true k ++ ": " ++ v).toList
  · simp only [List.map_map, List.mem_map]
    exact ⟨(k, v), hm, rfl⟩
  · simp [hc]

/-- A character of a text of the settings that JSON leaves as it is stands in their JSON
text. -/
theorem mem_jsonText {s : Settings} {text : String} (h : s.jsonText = .ok text) {x : String}
    (hx : x ∈ s.texts) {c : Char} (hc : c ∈ x.toList)
    (hraw : Json.escapeChar true c = c.toString) : c ∈ text.toList := by
  unfold jsonText at h
  cases hd : jsonNumber s.deadline with
  | error e => rw [hd] at h; cases h
  | ok d =>
    cases hw : jsonNumber s.waitAbandoned with
    | error e => rw [hd, hw] at h; cases h
    | ok w =>
      rw [hd, hw] at h
      obtain rfl := Except.ok.inj h
      have hq : c ∈ (jsonString x).toList := Json.mem_quote hc hraw
      simp only [texts, List.mem_cons, List.not_mem_nil, or_false] at hx
      rcases hx with rfl | rfl | rfl | rfl | rfl | rfl | rfl | rfl | rfl
      · exact mem_jsonObject "output_encoding" (by simp) hq
      -- the logger's and the metrics' texts are in the objects of the fifth and sixth members
      · exact mem_jsonObject "logger" (.tail _ (.tail _ (.tail _ (.tail _ (.head _)))))
          (mem_jsonObject "file_path" (by simp) hq)
      · exact mem_jsonObject "logger" (.tail _ (.tail _ (.tail _ (.tail _ (.head _)))))
          (mem_jsonObject "error_file_path" (by simp) hq)
      · exact mem_jsonObject "logger" (.tail _ (.tail _ (.tail _ (.tail _ (.head _)))))
          (mem_jsonObject "file_encoder" (by simp) hq)
      · exact mem_jsonObject "logger" (.tail _ (.tail _ (.tail _ (.tail _ (.head _)))))
          (mem_jsonObject "file_level" (by simp) hq)
      · exact mem_jsonObject "logger" (.tail _ (.tail _ (.tail _ (.tail _ (.head _)))))
          (mem_jsonObject "console_level" (by simp) hq)
      · exact mem_jsonObject "metrics" (.tail _ (.tail _ (.tail _ (.tail _ (.tail _ (.head _))))))
          (mem_jsonObject "namespace" (by simp) hq)
      · exact mem_jsonObject "metrics" (.tail _ (.tail _ (.tail _ (.tail _ (.tail _ (.head _))))))
          (mem_jsonObject "subsystem" (by simp) hq)
      · exact mem_jsonObject "metrics" (.tail _ (.tail _ (.tail _ (.tail _ (.tail _ (.head _))))))
          (mem_jsonObject "listen" (by simp) hq)

theorem decodeFile_of_refused {name text : String} {start : Settings} {cur : Yaml.Datum}
    {c : Char} (hc : c ∈ text.toList) (hbad : Yaml.allowedChar c = false) :
    decodeFile name (.settings start) text cur =
      .error (.error (.wrap ("unmarshal settings file \"" ++ name ++ "\" error")
        (.plain "yaml: control characters are not allowed"))) := by
  have hd : ∀ shape settable, Yaml.decodeInto text shape settable cur =
      .error (.read (.malformed
        { layer := .reader, problem := "control characters are not allowed" })) := by
    intro shape settable
    unfold Yaml.decodeInto
    rw [Yaml.compose_of_refused hc hbad]
  unfold decodeFile
  simp only [hd]
  rfl

/-- A settings file with a JSON extension whose text holds a character the YAML reader refuses
fails to load. -/
theorem load_of_refused {tree : FileTree} {name text : String} {start : Settings} {c : Char}
    (hread : tree.read name = .ok text) (hjson : isJsonExtension (extension name) = true)
    (hc : c ∈ text.toList) (hbad : Yaml.allowedChar c = false) :
    load tree [name] (.settings start) =
      .error (.error (.wrap ("unmarshal settings file \"" ++ name ++ "\" error")
        (.plain "yaml: control characters are not allowed"))) := by
  unfold load
  simp only [loadFiles, hread, hjson, Bool.true_or, if_true, decodeFile_of_refused hc hbad]

theorem isJsonExtension_json : isJsonExtension ".json" = true := by
  simp [isJsonExtension, Text.equalFold_self]

/-- A name with a JSON extension does not end in a separator. -/
theorem getLast_ne_slash_of_json {name : String} (h : isJsonExtension (extension name) = true) :
    name.toList.getLast? ≠ some '/' := by
  intro hl
  rw [← List.head?_reverse] at hl
  -- a name ending in a separator has an empty last part, hence no extension
  obtain ⟨rest, hr⟩ : ∃ rest, name.toList.reverse = '/' :: rest := by
    cases hrv : name.toList.reverse with
    | nil => simp [hrv] at hl
    | cons a rest =>
      simp only [hrv, List.head?_cons, Option.some.injEq] at hl
      exact ⟨rest, by rw [hl]⟩
  have he : extension name = "" := by simp [extension, hr]
  rw [he] at h
  exact absurd h (by decide)

theorem jsonNumber_of_isFinite {x : Double} (h : x.isFinite = true) :
    ∃ t, jsonNumber x = .ok t := by
  unfold Double.isFinite at h
  unfold jsonNumber Double.isNaN Double.isInf
  split at h
  · rename_i hs
    rw [if_neg (by simp [hs])]
    exact ⟨_, rfl⟩
  · cases h

theorem jsonText_ok {s : Settings} (hd : s.deadline.isFinite = true)
    (hw : s.waitAbandoned.isFinite = true) : ∃ text, s.jsonText = .ok text := by
  obtain ⟨d, hd⟩ := jsonNumber_of_isFinite hd
  obtain ⟨w, hw⟩ := jsonNumber_of_isFinite hw
  unfold jsonText
  rw [hd, hw]
  exact ⟨_, rfl⟩

/-- Settings whose numbers are finite are written to a JSON file wherever a file can be
written, as their JSON text. -/
theorem write_json_ok {tree : FileTree} {s : Settings} {name : String}
    (hjson : isJsonExtension (extension name) = true)
    (hd : s.deadline.isFinite = true) (hw : s.waitAbandoned.isFinite = true)
    (htree : ∃ t1, tree.write name "" = .ok t1) :
    ∃ tree' text, s.jsonText = .ok text ∧ tree.write name text = .ok tree' ∧
      s.write tree name = .ok (tree', text) := by
  obtain ⟨text, ht⟩ := jsonText_ok hd hw
  obtain ⟨t1, h1⟩ := htree
  obtain ⟨tree', h2⟩ := FileTree.write_ok_of_ok h1 text
  refine ⟨tree', text, ht, h2, ?_⟩
  have hf : s.fileText name = .ok text := by
    unfold fileText
    dsimp only
    rw [if_pos hjson, ht]
  unfold write
  rw [hf, Except.ok_bind, h2]
  rfl

/-- Settings written to a JSON file as their JSON text, one of their texts holding a character
the reader refuses, do not load back from that file. -/
theorem load_of_written_refused {tree tree' : FileTree} {s start : Settings} {name text : String}
    (hjson : isJsonExtension (extension name) = true) (ht : s.jsonText = .ok text)
    (htw : tree.write name text = .ok tree') {x : String} (hx : x ∈ s.texts) {c : Char}
    (hc : c ∈ x.toList) (hraw : RawRefused c) :
    load tree' [name] (.settings start) =
      .error (.error (.wrap ("unmarshal settings file \"" ++ name ++ "\" error")
        (.plain "yaml: control characters are not allowed"))) := by
  have hread : tree'.read name = .ok text :=
    FileTree.read_write htw (getLast_ne_slash_of_json hjson)
  have hct : c ∈ text.toList := mem_jsonText ht hx hc (escapeChar_of_rawRefused hraw)
  exact load_of_refused hread hjson hct (allowedChar_of_rawRefused hraw)

theorem json_write_then_load_refused {tree : FileTree} {s start : Settings} {name : String}
    (hjson : isJsonExtension (extension name) = true)
    (hd : s.deadline.isFinite = true) (hw : s.waitAbandoned.isFinite = true)
    (htree : ∃ t1, tree.write name "" = .ok t1)
    (hbad : ∃ x ∈ s.texts, ∃ c ∈ x.toList, RawRefused c) :
    ∃ tree' text, s.write tree name = .ok (tree', text) ∧
      load tree' [name] (.settings start) =
        .error (.error (.wrap ("unmarshal settings file \"" ++ name ++ "\" error")
          (.plain "yaml: control characters are not allowed"))) := by
  obtain ⟨tree', text, ht, htw, hwrite⟩ := write_json_ok hjson hd hw htree
  obtain ⟨x, hx, c, hc, hraw⟩ := hbad
  exact ⟨tree', text, hwrite, load_of_written_refused hjson ht htw hx hc hraw⟩

/-- The default settings with U+FFFF as the metrics subsystem, written to `settings.json` in
an empty directory, do not load back into empty settings. -/
theorem json_write_then_load_refused_subsystem :
    let s : Settings :=
      { Settings.defaults with metrics := { namespaceName := "deadline", subsystem := "\uFFFF" } }
    isJsonExtension (extension "settings.json") = true ∧ s.deadline.isFinite = true ∧
      s.waitAbandoned.isFinite = true ∧ (∃ t1, FileTree.write {} "settings.json" "" = .ok t1) ∧
      (∃ x ∈ s.texts, ∃ c ∈ x.toList, RawRefused c) ∧
      ∃ tree' text, s.write {} "settings.json" = .ok (tree', text) ∧
        load tree' ["settings.json"] (.settings {}) =
          .error (.error (.wrap "unmarshal settings file \"settings.json\" error"
            (.plain "yaml: control characters are not allowed"))) := by
  intro s
  have hjson : isJsonExtension (extension "settings.json") = true := by
    rw [show extension "settings.json" = ".json" by decide +kernel]
    exact isJsonExtension_json
  have hd : s.deadline.isFinite = true := by decide +kernel
  have hw : s.waitAbandoned.isFinite = true := by decide +kernel
  have htree : ∃ t1, FileTree.write {} "settings.json" "" = .ok t1 := ⟨_, rfl⟩
  have hbad : ∃ x ∈ s.texts, ∃ c ∈ x.toList, RawRefused c :=
    ⟨"\uFFFF", by simp [s, texts], '\uFFFF', by simp, by decide⟩
  exact ⟨hjson, hd, hw, htree, hbad, json_write_then_load_refused hjson hd hw htree hbad⟩

/-- The default settings with a delete as output encoding keep every rule and their numbers
are finite; they are written to `out.json`, and loading the file back fails. -/
theorem del_output_encoding_json_not_reloaded :
    let s : Settings := { Settings.defaults with outputEncoding := "\x7f" }
    s.violations = [] ∧ s.deadline.isFinite = true ∧ s.waitAbandoned.isFinite = true ∧
      ∃ tree' text, s.write {} "out.json" = .ok (tree', text) ∧
        load tree' ["out.json"] (.settings {}) =
          .error (.error (.wrap "unmarshal settings file \"out.json\" error"
            (.plain "yaml: control characters are not allowed"))) := by
  intro s
  have hjson : isJsonExtension (extension "out.json") = true := by
    rw [show extension "out.json" = ".json" by decide +kernel]
    exact isJsonExtension_json
  have hd : s.deadline.isFinite = true := by decide +kernel
  have hw : s.waitAbandoned.isFinite = true := by decide +kernel
  have htree : ∃ t1, FileTree.write {} "out.json" "" = .ok t1 := ⟨_, rfl⟩
  obtain ⟨tree', text, ht, htw, hwrite⟩ := write_json_ok hjson hd hw htree
  have hx : "\x7f" ∈ s.texts := by simp [s, texts]
  have hraw : RawRefused '\x7f' := by decide
  exact ⟨by decide +kernel, hd, hw, tree', text, hwrite,
    load_of_written_refused hjson ht htw hx (by simp) hraw⟩

end Settings

end Timebox
