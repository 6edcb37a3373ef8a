import ShadowCopy.Data.Machine
import ShadowCopy.Data.Buffer
import ShadowCopy.Data.Reader
import ShadowCopy.Core.Bytes
import ShadowCopy.Core.Error
import ShadowCopy.Core.Catalog
import ShadowCopy.Core.Store
import ShadowCopy.Data.Chain
import ShadowCopy.Data.Grouping
import ShadowCopy.Core.Walk
import ShadowCopy.Core.Volume
import ShadowCopy.Core.Reconstruct
import ShadowCopy.Core.Vfs
import ShadowCopy.Core.Reconstructed
import ShadowCopy.Data.Layer
import ShadowCopy.Reconstruction.Supply
import ShadowCopy.Core.Layout
import ShadowCopy.Core.Agreement
import ShadowCopy.Reconstruction.View
import ShadowCopy.Reconstruction.Isolation
import ShadowCopy.Reconstruction.VolumeEnd
import ShadowCopy.Data.Sharing
import ShadowCopy.Session.History
import ShadowCopy.Catalog.Pairing
import ShadowCopy.Session.Safety
import ShadowCopy.Reconstruction.Chains
import ShadowCopy.Reconstruction.Provenance
import ShadowCopy.Catalog.Enumeration
import ShadowCopy.Reconstruction.Bounds
import ShadowCopy.Session.ReadPaths
import ShadowCopy.Data.Gaps
import ShadowCopy.Forensic.Audit
import ShadowCopy.Core.Information
import ShadowCopy.Forensic.NonPersistent
import ShadowCopy.Forensic.Sequences
import ShadowCopy.Reconstruction.NotUsed
import ShadowCopy.Data.Joined
import ShadowCopy.Data.Utf16
import ShadowCopy.Information.Strings
import ShadowCopy.Reconstruction.BitmapChain
import ShadowCopy.Information.Record
import ShadowCopy.Session.Width
import ShadowCopy.Data.CopyOnWrite
import ShadowCopy.Data.Extents
import ShadowCopy.Data.FailFast
import ShadowCopy.Data.LittleEndian
import ShadowCopy.Data.Ledger
import ShadowCopy.Session.FailFast
import ShadowCopy.Session.Budget
import ShadowCopy.Forensic.Degraded
import ShadowCopy.Forensic.Deletions
import ShadowCopy.Forensic.Findings
import ShadowCopy.Forensic.Footprint
import ShadowCopy.Forensic.Layouts
import ShadowCopy.Forensic.Report
import ShadowCopy.Format.Restore
import ShadowCopy.Session.Restored
import ShadowCopy.Reconstruction.Order
import ShadowCopy.Reconstruction.Truncated
