import ImmichDoctor.Library.PurePath
import Mathlib.Logic.Function.Basic
/-!
# Text files

Files by the parts of their paths, each with its text; a path without a file has none.
-/

namespace ImmichDoctor.Library

abbrev FilePath := List PyStr

/-- The files that are there. -/
abbrev TextFiles := FilePath → Option PyStr

namespace TextFiles

variable (files : TextFiles) (path : FilePath)

/-- `path.write_text(text)`. -/
def write (text : PyStr) : TextFiles :=
  Function.update files path (some text)

/-- A write to the end of a file that is opened for appending. -/
def append (text : PyStr) : TextFiles :=
  files.write path ((files path).getD [] ++ text)

/-- `path.touch(exist_ok=True)`. -/
def touch : TextFiles :=
  files.append path []

/-- `path.unlink()`. -/
def unlink : TextFiles :=
  Function.update files path none

variable {files path}

theorem write_apply (text : PyStr) (other : FilePath) :
    files.write path text other = if other = path then some text else files other :=
  Function.update_apply ..

theorem unlink_apply (other : FilePath) :
    files.unlink path other = if other = path then none else files other :=
  Function.update_apply ..

/-- What a file holds after an append. -/
theorem getD_append (text : PyStr) (other : FilePath) :
    (files.append path text other).getD [] =
      (files other).getD [] ++ if other = path then text else [] := by
  rw [append, write_apply]
  by_cases h : other = path
  · rw [if_pos h, if_pos h, h, Option.getD_some]
  · rw [if_neg h, if_neg h, List.append_nil]

/-- Touching a file changes no text. -/
theorem getD_touch (other : FilePath) :
    (files.touch path other).getD [] = (files other).getD [] := by
  rw [touch, getD_append, ite_self, List.append_nil]

theorem append_apply (text : PyStr) (other : FilePath) :
    files.append path text other =
      if other = path then some ((files path).getD [] ++ text) else files other :=
  write_apply ..

theorem touch_apply (other : FilePath) :
    files.touch path other = if other = path then some ((files path).getD []) else files other := by
  rw [touch, append_apply, List.append_nil]

end TextFiles

end ImmichDoctor.Library
