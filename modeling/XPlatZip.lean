import XPlatZip.Bytes
import XPlatZip.StreamBase
import XPlatZip.Meta
import XPlatZip.Records.Headers
import XPlatZip.Records.EndRecords
import XPlatZip.ZipStream
import XPlatZip.Properties.FieldRead
import XPlatZip.Properties.PriorState
import XPlatZip.Spec.Discovery
import XPlatZip.Properties.EndRecordRead
import XPlatZip.Properties.Discovery
import XPlatZip.Properties.RoundTrip
import XPlatZip.Properties.HeaderRead
import XPlatZip.Properties.HeaderWrite
import XPlatZip.Properties.Archive
import XPlatZip.Properties.Frame
import XPlatZip.Properties.ReadThenWrite
import XPlatZip.Properties.Accepted
