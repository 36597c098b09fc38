import Framing.Number
import Framing.Text
import Framing.Quote
import Framing.Geometry
import Framing.Csv
import Framing.Command
import Framing.Main
import Framing.Proofs.Binary64.Nearest
import Framing.Proofs.Binary64.Unpacked
import Framing.Proofs.Binary64.Rounding
import Framing.Proofs.Binary64.Operations
import Framing.Proofs.Binary64.Integral
import Framing.Proofs.Binary64.Error
import Framing.Proofs.Crop
import Framing.Proofs.Relative
import Framing.Proofs.Fit
import Framing.Proofs.RoundTrip
import Framing.Proofs.Binary64.Order
import Framing.Proofs.Placement
import Framing.Proofs.Edges
import Framing.Proofs.Resize
import Framing.Proofs.ScaledSide
import Framing.Proofs.ClampedCrop
import Framing.Proofs.Interpolate
import Framing.Proofs.Binary64.Monotone
import Framing.Proofs.ResizeMonotone
import Framing.Proofs.InterpolateMonotone
import Framing.Proofs.SizesTable
