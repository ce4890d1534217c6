import Mathlib.Data.List.TakeWhile
import Workshop.Document.Name

/-!
# Safe extensions

The extension behind the id in the name of a stored file is the one of the document's own name in
small letters, `FileName.smallExtension`, if that is safe.  A safe extension is plain, a point and
one to ten letters or digits, or it is plain but for a line end behind it: `FileName.isSafe_iff`.
So `FileName.stored_names_are_safe` says of which names something other than a plain extension is
kept, and that ids without points can be told from the extensions behind them.
-/

namespace Workshop.FileName

/-! ### Plain extensions -/

/-- Whether the characters are a point and one to ten plain characters, and nothing else. -/
def IsPlainExtension (cs : List Char) : Prop :=
  ∃ rest, cs = '.' :: rest ∧ 1 ≤ rest.length ∧ rest.length ≤ 10 ∧ ∀ c ∈ rest, isPlain c = true

namespace IsPlainExtension

variable {cs : List Char}

theorem isSafe (h : IsPlainExtension cs) :
  isSafe cs = true
  := by
  obtain ⟨rest, rfl, hpos, hle, hplain⟩ := h
  have htake : rest.takeWhile isPlain = rest := List.takeWhile_eq_self_iff.mpr hplain
  have hdrop : rest.dropWhile isPlain = [] := List.dropWhile_eq_nil_iff.mpr hplain
  simp [FileName.isSafe, htake, hdrop, hpos, hle]

/-- A line end behind a plain extension leaves it safe. -/
theorem isSafe_append (h : IsPlainExtension cs) :
  FileName.isSafe (cs ++ ['\n']) = true
  := by
  obtain ⟨rest, rfl, hpos, hle, hplain⟩ := h
  have htake : (rest ++ ['\n']).takeWhile isPlain = rest := by
    rw [List.takeWhile_append_of_pos hplain, List.takeWhile_cons_of_neg (by decide),
      List.append_nil]
  have hdrop : (rest ++ ['\n']).dropWhile isPlain = ['\n'] := by
    rw [List.dropWhile_append_of_pos hplain, List.dropWhile_cons_of_neg (by decide)]
  simp [FileName.isSafe, htake, hdrop, hpos, hle]

/-- No line end stands in a plain extension. -/
theorem ne_append (h : IsPlainExtension cs) (ext : List Char) :
  cs ≠ ext ++ ['\n']
  := by
  obtain ⟨rest, rfl, -, -, hplain⟩ := h
  intro heq
  have hmem : '\n' ∈ '.' :: rest := by simp [heq]
  rcases List.mem_cons.mp hmem with hpoint | hrest
  · revert hpoint
    decide
  · have := hplain _ hrest
    revert this
    decide

end IsPlainExtension

/-- A safe extension is plain, but for one line end that may stand behind it. -/
theorem isSafe_iff {cs : List Char} :
  isSafe cs = true ↔ IsPlainExtension cs ∨ ∃ ext, IsPlainExtension ext ∧ cs = ext ++ ['\n']
  := by
  constructor
  · intro h
    rw [isSafe.eq_def] at h
    split at h
    · rename_i rest
      simp only [Bool.and_eq_true, decide_eq_true_eq, Bool.or_eq_true, beq_iff_eq] at h
      obtain ⟨⟨hpos, hle⟩, hend⟩ := h
      have hplain : IsPlainExtension ('.' :: rest.takeWhile isPlain) :=
        ⟨_, rfl, hpos, hle, fun _ => List.mem_takeWhile_imp⟩
      have hrest := List.takeWhile_append_dropWhile (p := isPlain) (l := rest)
      rcases hend with hend | hend <;> rw [hend] at hrest
      · left
        rwa [← hrest, List.append_nil]
      · right
        exact ⟨_, hplain, by rw [List.cons_append, hrest]⟩
    · cases h
  · rintro (h | ⟨ext, h, rfl⟩)
    · apply h.isSafe
    · apply h.isSafe_append

/-! ### Extensions of names -/

/-- The extension of a name in small letters. -/
def smallExtension (name : Option String) : String :=
  Text.lower (String.ofList (extension (name.getD "").toList))

/-- Whether the extension of the name is, in small letters, a plain one with a line end behind
it. -/
def EndsLine (name : Option String) : Prop :=
  ∃ ext, IsPlainExtension ext ∧ (smallExtension name).toList = ext ++ ['\n']

variable {name : Option String}

theorem safeExtension_of_endsLine (h : EndsLine name) :
  safeExtension name = smallExtension name
  := if_pos (isSafe_iff.mpr (.inr h))

/-- Of a name whose extension does not end in a line end, a plain extension is kept, or none. -/
theorem safeExtension_of_not_endsLine (h : ¬ EndsLine name) :
  safeExtension name = "" ∨ IsPlainExtension (safeExtension name).toList
  := by
  by_cases hsafe : isSafe (smallExtension name).toList = true
  · right
    have heq : safeExtension name = smallExtension name := if_pos hsafe
    rw [heq]
    apply (isSafe_iff.mp hsafe).resolve_right h
  · left
    apply if_neg hsafe

/-- A safe extension is nothing, or a point with characters behind it that are neither points nor
separators. -/
theorem toList_safeExtension (name : Option String) :
  (safeExtension name).toList = []
    ∨ ∃ rest, (safeExtension name).toList = '.' :: rest ∧ rest ≠ [] ∧ '.' ∉ rest ∧ '/' ∉ rest
  := by
  have hplain : ∀ {rest : List Char} {c : Char}, (∀ c ∈ rest, isPlain c = true) →
      isPlain c = false → c ∉ rest := by
    intro rest c hrest hc hmem
    simp [hrest c hmem] at hc
  by_cases h : EndsLine name
  · have ⟨_, ⟨rest, rfl, _, _, hrest⟩, heq⟩ := h
    right
    refine ⟨rest ++ ['\n'], ?_, by simp, ?_, ?_⟩
    · rw [safeExtension_of_endsLine h, heq, List.cons_append]
    · simpa using hplain hrest (by decide)
    · simpa using hplain hrest (by decide)
  · rcases safeExtension_of_not_endsLine h with heq | ⟨rest, heq, hpos, -, hrest⟩
    · left
      rw [heq]
      rfl
    · right
      refine ⟨rest, heq, ?_, hplain hrest (by decide), hplain hrest (by decide)⟩
      apply List.ne_nil_of_length_pos hpos

/-- The characters of a safe extension. -/
theorem mem_safeExtension {c : Char} (h : c ∈ (safeExtension name).toList) :
  c = '.' ∨ isPlain c = true ∨ c = '\n'
  := by
  by_cases hends : EndsLine name
  · have ⟨_, ⟨rest, rfl, _, _, hplain⟩, heq⟩ := hends
    rw [safeExtension_of_endsLine hends, heq, List.mem_append, List.mem_cons,
      List.mem_singleton] at h
    rcases h with (h | h) | h
    · exact .inl h
    · exact .inr (.inl (hplain c h))
    · exact .inr (.inr h)
  · rcases safeExtension_of_not_endsLine hends with heq | ⟨rest, heq, -, -, hplain⟩
    · rw [heq] at h
      cases h
    · rw [heq, List.mem_cons] at h
      rcases h with h | h
      · exact .inl h
      · exact .inr (.inl (hplain c h))

/-! ### Stored names -/

variable {id id' : String} {name' : Option String}

/-- An id without points is what stands before the first point of a stored name. -/
theorem takeWhile_stored (point : '.' ∉ id.toList) (name : Option String) :
  (stored id name).toList.takeWhile (· ≠ '.') = id.toList
  := by
  have hid : ∀ c ∈ id.toList, decide (c ≠ '.') = true := by
    intro c hc
    simp only [decide_eq_true_eq]
    rintro rfl
    apply point hc
  rw [stored, String.toList_append, List.takeWhile_append_of_pos hid]
  rcases toList_safeExtension name with h | ⟨rest, h, -⟩ <;> simp [h]

/-- Documents that would be stored under the same name have the same id, if no points stand in their
ids. -/
theorem id_of_stored_eq (point : '.' ∉ id.toList) (point' : '.' ∉ id'.toList)
    (h : stored id name = stored id' name') :
  id = id'
  := by
  have hid := takeWhile_stored point name
  rw [h, takeWhile_stored point'] at hid
  apply String.toList_injective hid.symm

/-- What is kept of the extension of a name is nothing or a plain extension, exactly if the name
does not end a line.  A name that does leaves its plain extension and the line end.  A document is
stored under its id with what is kept behind it, and an id without points can be read off the name.
-/
theorem stored_names_are_safe (name : Option String) :
  (safeExtension name = "" ∨ IsPlainExtension (safeExtension name).toList ↔ ¬ EndsLine name)
    ∧ (¬ EndsLine name → ∀ id, stored id name = id
        ∨ ∃ ext : String, IsPlainExtension ext.toList ∧ stored id name = id ++ ext)
    ∧ (EndsLine name → ∀ id, ∃ ext : String,
        IsPlainExtension ext.toList ∧ stored id name = id ++ ext ++ "\n")
    ∧ ∀ id id' name', '.' ∉ id.toList → '.' ∉ id'.toList →
        stored id name = stored id' name' → id = id'
  := by
  refine ⟨⟨?_, safeExtension_of_not_endsLine⟩, ?_, ?_, ?_⟩
  · rintro h hends
    have ⟨ext, _, heq⟩ := hends
    rw [safeExtension_of_endsLine hends] at h
    rcases h with h | h
    · simp [h] at heq
    · apply h.ne_append ext heq
  · intro h id
    rcases safeExtension_of_not_endsLine h with hnone | hplain
    · left
      rw [stored, hnone, String.append_empty]
    · right
      exact ⟨safeExtension name, hplain, rfl⟩
  · intro h id
    have ⟨ext, hplain, heq⟩ := h
    refine ⟨String.ofList ext, by simpa using hplain, ?_⟩
    apply String.toList_injective
    simp [stored, safeExtension_of_endsLine h, heq]
  · intro id id' name' point point'
    apply id_of_stored_eq point point'

/-- Of one name a line end is kept behind the extension, of another nothing but the extension, and
with the same name two documents are stored apart. -/
theorem stored_names_of_broken :
  (EndsLine (some "a.pdf\n") ∧ stored "d-1" (some "a.pdf\n") = "d-1.pdf\n"
      ∧ ¬ (safeExtension (some "a.pdf\n") = ""
        ∨ IsPlainExtension (safeExtension (some "a.pdf\n")).toList))
    ∧ (¬ EndsLine (some "Drawing.PDF") ∧ stored "d-1" (some "Drawing.PDF") = "d-1.pdf"
      ∧ (safeExtension (some "Drawing.PDF") = ""
        ∨ IsPlainExtension (safeExtension (some "Drawing.PDF")).toList))
    ∧ stored "d-1" (some "Drawing.PDF") ≠ stored "d-2" (some "Drawing.PDF")
  := by
  have hpdf : IsPlainExtension ['.', 'p', 'd', 'f'] :=
    ⟨_, rfl, by decide, by decide, List.all_eq_true.mp rfl⟩
  have hbroken : EndsLine (some "a.pdf\n") := ⟨_, hpdf, by decide +kernel⟩
  have hwhole : ¬ EndsLine (some "Drawing.PDF") := by
    rintro ⟨ext, -, heq⟩
    have hsmall : (smallExtension (some "Drawing.PDF")).toList = ['.', 'p', 'd', 'f'] := by
      decide +kernel
    apply hpdf.ne_append ext
    rw [← hsmall, heq]
  obtain ⟨hiff, -, -, -⟩ := stored_names_are_safe (some "a.pdf\n")
  obtain ⟨hiff', -, -, hids⟩ := stored_names_are_safe (some "Drawing.PDF")
  refine ⟨⟨hbroken, by decide +kernel, ?_⟩, ⟨hwhole, by decide +kernel, hiff'.mpr hwhole⟩, ?_⟩
  · intro h
    apply hiff.mp h hbroken
  · intro heq
    have := hids "d-1" "d-2" (some "Drawing.PDF") (by decide) (by decide) heq
    revert this
    decide

end Workshop.FileName
