import Workshop.Proofs.Extensions
import Workshop.Proofs.Statement

/-!
# The names of stored files

The bytes of a document whose id is plain, which means that neither a point nor a separator stands
in it, are stored in the documents directory itself, under a name from which the id can be read off
again: `FileName.id_of_stored_eq`.  The place to which they are written, `Shelf.locate`, and the
place from which they are read, `Path.ofStored`, are found in different ways; for a plain name both
are the same.
-/

namespace Workshop

namespace FileName

/-! ### Plain ids -/

/-- Whether a document id can be told from an extension behind it, and is not a way into another
directory. -/
def IsPlainId (id : String) : Prop :=
  '.' ∉ id.toList ∧ '/' ∉ id.toList

instance (id : String) : Decidable (IsPlainId id) :=
  inferInstanceAs (Decidable (_ ∧ _))

/-- A stored name has no separators, if the id has none. -/
theorem separator_not_mem_stored {id : String} (separator : '/' ∉ id.toList)
    (name : Option String) :
  '/' ∉ (stored id name).toList
  := by
  rw [stored, String.toList_append, List.mem_append]
  rintro (hmem | hmem)
  · apply separator hmem
  · rcases toList_safeExtension name with h | ⟨rest, h, -, -, hrest⟩ <;> simp_all

/-- A stored name holds no NUL, if the id holds none. -/
theorem nul_not_mem_stored {id : String} (nul : '\x00' ∉ id.toList) (name : Option String) :
  '\x00' ∉ (stored id name).toList
  := by
  rw [stored, String.toList_append, List.mem_append]
  rintro (hmem | hmem)
  · apply nul hmem
  · have := mem_safeExtension hmem
    revert this
    decide

end FileName

/-! ### Plain names -/

/-- Whether a name leads to a file of the directory from which it is read, or to none. -/
structure Path.IsPlainName (name : String) : Prop where
  separator : '/' ∉ name.toList
  stays : name ≠ "."
  back : name ≠ ".."

theorem FileName.isPlainName_stored {id : String} (plain : IsPlainId id) (name : Option String) :
  Path.IsPlainName (stored id name)
  := by
  have hlist : (stored id name).toList = id.toList ++ (safeExtension name).toList := by
    rw [stored, String.toList_append]
  have hext : ∀ cs, (stored id name).toList = '.' :: cs →
      (safeExtension name).toList = '.' :: cs := by
    intro cs hcs
    have hid := takeWhile_stored plain.1 name
    rw [hcs, List.takeWhile_cons_of_neg (by decide)] at hid
    rw [← hcs, hlist, ← hid, List.nil_append]
  have hsafe := toList_safeExtension name
  constructor
  · apply separator_not_mem_stored plain.2
  · intro heq
    have := hext [] (by rw [heq]; rfl)
    rcases hsafe with h | ⟨rest, h, hne, -⟩ <;> simp_all
  · intro heq
    have := hext ['.'] (by rw [heq]; rfl)
    rcases hsafe with h | ⟨rest, h, -, hpoint, -⟩ <;> simp_all

/-! ### Places -/

section

variable {name : String}

namespace Path.IsPlainName

theorem names_eq (plain : IsPlainName name) :
  names name.toList = if name = "" then [] else [name]
  := by
  have hstays := plain.stays
  simp only [names, Text.split_of_not_mem plain.separator, List.map_cons, List.map_nil,
    String.ofList_toList]
  by_cases hempty : name = "" <;> simp [hempty, hstays]

theorem origin_eq (plain : IsPlainName name) (base : Path) :
  origin base name.toList = base
  := by
  have hseparator := plain.separator
  rw [origin.eq_def]
  split
  · simp_all
  · rfl

/-- A plain name is read from the directory itself. -/
theorem ofStored_eq (plain : IsPlainName name) (hempty : name ≠ "") (hnul : '\x00' ∉ name.toList)
    (base : Path) :
  ofStored base name = .ok [name]
  := by
  have hresolve : resolve base name.toList = base ++ [name] := by
    simp [resolve, plain.names_eq, plain.origin_eq, hempty, step, plain.back]
  simp [ofStored, hresolve, hnul, List.isPrefixOf_iff_prefix]

end Path.IsPlainName

namespace Shelf

variable {s s' : Shelf} {here path : Path}

/-- From a directory, a name that does not go back leads to the file of this name in it, or
nowhere. -/
theorem follow_eq_ok_iff (back : name ≠ "..") :
  s.follow here [name] = .ok path ↔
    pathSize (here ++ [name]) < pathLimit ∧ name.utf8ByteSize ≤ nameLimit
      ∧ s.isDirectory here = true ∧ s.isDirectory (here ++ [name]) = false
      ∧ path = here ++ [name]
  := by
  have hwalk : s.walk here [name] =
      if nameLimit < name.utf8ByteSize then .error .tooLong
      else if s.isDirectory (here ++ [name]) then .error .isDirectory
      else .ok (here ++ [name]) := by
    rw [walk]
    · simp [walk]
    · apply back
  rw [follow, hwalk]
  split_ifs <;> simp_all
  apply eq_comm

/-- Where a plain name leads to does not depend on the files. -/
theorem follow_congr (back : name ≠ "..") (hbase : s'.base = s.base) (hmade : s'.isMade = s.isMade)
    (h : s.follow here [name] = .ok path) :
  s'.follow here [name] = .ok path
  := by
  rw [follow_eq_ok_iff back] at *
  simpa only [isDirectory, hbase, hmade] using h

/-- A file with a plain name is written in the documents directory itself. -/
theorem of_locate_eq_ok (plain : Path.IsPlainName name) (h : s.locate name = .ok path) :
  name ≠ "" ∧ path = s.base ++ [name] ∧ s.follow s.base [name] = .ok path
  := by
  rw [locate, plain.names_eq, plain.origin_eq] at h
  by_cases hempty : name = ""
  · rw [if_pos hempty, follow] at h
    split_ifs at h
    simp [walk] at h
  · rw [if_neg hempty] at h
    obtain ⟨-, -, -, -, hpath⟩ := (follow_eq_ok_iff plain.back).mp h
    exact ⟨hempty, hpath, h⟩

end Shelf

end

end Workshop
