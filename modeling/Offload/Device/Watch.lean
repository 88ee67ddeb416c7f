import Offload.Device.Basic

/-!
Watching a device: what it recorded between two looks at it.
-/
namespace Offload

/-- What a device recorded since it was last looked at. -/
structure DeviceNews where
  markers : List (EventId × List EventId)
  compilations : List CompileRecord
  reports : List KernelReport

/-- How much of a device's records has been seen. -/
structure Watch where
  compilations : Nat := 0
  /-- The latest marker. -/
  marker : EventId := 0
  reports : Nat := 0
  deriving Repr, DecidableEq

/-- The records that have not been seen; after that they have been. Ids of markers ascend, also past a
reset. -/
def Watch.look (w : Watch) (d : Device) : DeviceNews × Watch :=
  ({ markers := d.markerLog.filter fun entry => w.marker < entry.1
     compilations := d.compileLog.drop w.compilations
     reports := d.reports.drop w.reports },
    { compilations := d.compileLog.length
      marker := (d.markerLog.getLast?.map (·.1)).getD w.marker
      reports := d.reports.length })

end Offload
