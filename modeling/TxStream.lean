import TxStream.Protocol.Classify
import TxStream.Protocol.RequestLimit
import TxStream.Protocol.Accessors
import TxStream.Protocol.FrameCodec
import TxStream.Protocol.SelfDelimiting
import TxStream.Protocol.References
import TxStream.Protocol.FullReader
import TxStream.Protocol.Stream
import TxStream.Client.FilterRequest
import TxStream.Client.FailedObservation
import TxStream.Client.Attachment
import TxStream.Client.Selection
import TxStream.Client.ReconnectBackoff
import TxStream.Protocol.Malleability
import TxStream.Protocol.EncoderDiagnosis
import TxStream.Protocol.StreamDiagnosis
import TxStream.Protocol.Truncation
import TxStream.Protocol.ParseDiagnosis
import TxStream.Client.StreamAgreement
import TxStream.Client.Subscribers
import TxStream.Client.MessageLimits
import TxStream.Client.CancelSafety
import TxStream.Client.ReconnectMachine
import TxStream.Client.CallBound
import TxStream.Client.LiveFeed
import TxStream.Client.ObservationFeed
import TxStream.Client.Pipeline
import TxStream.Client.Diagnosis
