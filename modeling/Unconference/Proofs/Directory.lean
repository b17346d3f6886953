import Unconference.Directory
import Mathlib.Data.String.Basic

/-!
# Files by their names

A path without a slash has one component, itself.  If a file may have that name the path leads to
the file, in any directory, and reading it after it was written gives what was written.
-/

namespace Unconference.Directory

open String (splitOnAux utf8Len)

/-! ## Paths of one component -/

/-- Nothing is split off as long as no slash is read; the text is read up to the end of `read`. -/
theorem splitOnAux_slash (read : List Char) {rest : List Char} (habsent : '/' ∉ rest) :
    splitOnAux (.ofList (read ++ rest)) "/" 0 ⟨utf8Len read⟩ 0 [] = [.ofList (read ++ rest)] := by
  induction rest generalizing read with
  | nil =>
      have hend : String.Pos.Raw.atEnd (.ofList (read ++ [])) ⟨utf8Len read⟩ = true := by simp
      rw [splitOnAux, if_pos hend]
      simpa using String.extract_of_valid [] read []
  | cons c rest ih =>
      obtain ⟨hother, habsent⟩ := not_or.1 (mt List.mem_cons.2 habsent)
      have hmore : ¬String.Pos.Raw.atEnd (.ofList (read ++ c :: rest)) ⟨utf8Len read⟩ = true := by
        have hsize := c.utf8Size_pos
        simp only [String.atEnd_iff, String.rawEndPos_ofList, String.utf8Len_append,
          String.utf8Len_cons, String.Pos.Raw.mk_le_mk]
        omega
      have hread : String.Pos.Raw.get (.ofList (read ++ c :: rest)) ⟨utf8Len read⟩ = c :=
        String.get_of_valid read (c :: rest)
      have hslash : String.Pos.Raw.get "/" 0 = '/' := String.get_of_valid [] ['/']
      have hdiffers : ¬(c == '/') = true := by simpa using Ne.symm hother
      have hnext : String.Pos.Raw.next (.ofList (read ++ c :: rest)) ⟨utf8Len read⟩ =
          ⟨utf8Len (read ++ [c])⟩ := by
        rw [String.next_of_valid]
        simp
      have hback : String.Pos.Raw.unoffsetBy ⟨utf8Len read⟩ 0 = ⟨utf8Len read⟩ := rfl
      rw [splitOnAux, if_neg hmore, hread, hslash, if_neg hdiffers, hback, hnext]
      simpa using ih (read ++ [c]) habsent

theorem splitOn_slash {path : String} (habsent : '/' ∉ path.toList) :
    path.splitOn "/" = [path] := by
  unfold String.splitOn
  rw [if_neg (by simp)]
  simpa using splitOnAux_slash [] habsent

/-! ## File names -/

structure IsFileName (name : String) : Prop where
  nonempty : name ≠ ""
  noDot : name ≠ "."
  noDots : name ≠ ".."
  noSlash : '/' ∉ name.toList
  noNul : '\x00' ∉ name.toList
  short : name.utf8ByteSize ≤ longestName

variable {name : String}

theorem resolve_of_isFileName (directory : Directory) (hname : IsFileName name) :
    directory.resolve name = .ok (.file name) := by
  have hnul : ¬name.toList.contains '\x00' = true := by simpa using hname.noNul
  have hshort : ¬longestName < name.utf8ByteSize := not_lt.2 hname.short
  have hpath : ¬longestPath < name.utf8ByteSize := by
    have hless : longestName ≤ longestPath := by decide
    exact fun hlong => hshort (lt_of_le_of_lt hless hlong)
  unfold resolve
  rw [if_neg hnul, if_neg hpath, splitOn_slash hname.noSlash]
  simp [follow, hname.nonempty, hname.noDot, hname.noDots, hshort]

theorem write_of_isFileName (directory : Directory) (hname : IsFileName name) (text : String) :
    directory.write name text =
      (.ok (), { files := (name, text) :: (directory.erase name).files }) := by
  unfold write
  rw [resolve_of_isFileName directory hname]

theorem read_write (directory : Directory) (hname : IsFileName name) (text : String) :
    (directory.write name text).2.read name = some text := by
  rw [write_of_isFileName directory hname]
  simp [read, lookUp, resolve_of_isFileName _ hname]

end Unconference.Directory
