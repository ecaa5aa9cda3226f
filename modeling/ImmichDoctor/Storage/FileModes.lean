import ImmichDoctor.Library.PurePath
import Mathlib.Logic.Function.Basic
/-!
# File modes

The permission bits of the files a path leads to, as `FilesystemAdapter` reads and changes
them. Two paths may lead to one file, by a link or by the way they are written.
-/

namespace ImmichDoctor.Storage

open ImmichDoctor.Library

/-- `stat.S_IMODE(st_mode)`. -/
abbrev FileMode := BitVec 12

abbrev Inode := Nat

structure FileModes where
  fileAt : PurePath → Option Inode
  mode : Inode → FileMode

namespace FileModes

variable (files : FileModes)

/-- `S_IMODE(stat_path(path).st_mode)`; `none` for `FileNotFoundError`. -/
def statMode (path : PurePath) : Option FileMode :=
  (files.fileAt path).map files.mode

def setMode (file : Inode) (mode : FileMode) : FileModes :=
  { files with mode := Function.update files.mode file mode }

/-- `set_permissions`. -/
def setPermissions (path : PurePath) (mode : FileMode) : Option FileModes :=
  (files.fileAt path).map fun file => files.setMode file mode

/-- `stat.S_IRUSR | stat.S_IRGRP`. -/
def readBits : FileMode := 0o440

/-- `add_read_permissions`. -/
def addReadPermissions (path : PurePath) : Option FileModes :=
  (files.fileAt path).map fun file => files.setMode file (files.mode file ||| readBits)

end FileModes

end ImmichDoctor.Storage
