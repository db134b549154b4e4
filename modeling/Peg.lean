import Peg.Decimal
import Peg.QemuOpts
import Peg.Config
import Peg.Drives
import Peg.Layout
import Peg.BootOrder
import Peg.Runtime
import Peg.Qemu
import Peg.Monitor
import Peg.Escaping
