import DetectorStream.Number.Decimal

/-!
# Conditions raised by the surroundings

A **signal** is a condition that a broker client, a network or a context reports. Code that decides
about retries looks at which signal it is, never at its wording. The wording is still known: it is
what the log and the trace show.
-/

namespace DetectorStream

/-- A condition reported from outside. -/
inductive Signal
  | endOfInput
  | unexpectedEnd
  | deadline
  | cancelled
  | kafkaCode (code : Int)
  | outOfBrokers
  | notConnected
  | closedClient
  | shuttingDown
  | messageTooLarge
  | alreadyConnected
  | insufficientData
  | invalidPartition
  | netOperation
  | netLookup
  | netClosed
  | natsTimeout
  | natsNoServers
  | natsReconnectBuffer
  | natsStale
  | natsClosed
  | natsMaxPayload
  | natsBadSubject
  | natsAuthorization
deriving DecidableEq, Repr

namespace Signal

/-- The signals that have a name, with their names. -/
def named : List (String × Signal) :=
  [("eof", endOfInput), ("unexpected_eof", unexpectedEnd), ("deadline", deadline),
    ("canceled", cancelled), ("out_of_brokers", outOfBrokers), ("not_connected", notConnected),
    ("closed_client", closedClient), ("shutting_down", shuttingDown),
    ("message_too_large", messageTooLarge), ("already_connected", alreadyConnected),
    ("insufficient_data", insufficientData), ("invalid_partition", invalidPartition),
    ("net_op", netOperation), ("net_dns", netLookup), ("net_closed", netClosed),
    ("nats_timeout", natsTimeout), ("nats_no_servers", natsNoServers),
    ("nats_reconnect_buf", natsReconnectBuffer), ("nats_stale", natsStale),
    ("nats_closed", natsClosed), ("nats_max_payload", natsMaxPayload),
    ("nats_bad_subject", natsBadSubject), ("nats_auth", natsAuthorization)]

/-- The signal of a name. -/
def ofName? (name : String) : Option Signal := named.lookup name

/-- The broker's explanation of an error code. -/
def kafkaExplanation : Int → Option String
  | -1 => some "Unexpected (unknown?) server error"
  | 0 => some "Not an error, why are you printing me?"
  | 1 => some "The requested offset is outside the range of offsets maintained by the server for the given topic/partition"
  | 2 => some "Message contents does not match its CRC"
  | 3 => some "Request was for a topic or partition that does not exist on this broker"
  | 4 => some "The message has a negative size"
  | 5 => some "In the middle of a leadership election, there is currently no leader for this partition and hence it is unavailable for writes"
  | 6 => some "Tried to send a message to a replica that is not the leader for some partition. Your metadata is out of date"
  | 7 => some "Request exceeded the user-specified time limit in the request"
  | 8 => some "Broker not available. Not a client facing error, we should never receive this!!!"
  | 9 => some "Replica information not available, one or more brokers are down"
  | 10 => some "Message was too large, server rejected it to avoid allocation error"
  | 11 => some "StaleControllerEpochCode (internal error code for broker-to-broker communication)"
  | 12 => some "Specified a string larger than the configured maximum for offset metadata"
  | 13 => some "The server disconnected before a response was received"
  | 14 => some "The coordinator is still loading offsets and cannot currently process requests"
  | 15 => some "The coordinator is not available"
  | 16 => some "Request was for a consumer group that is not coordinated by this broker"
  | 17 => some "The request attempted to perform an operation on an invalid topic"
  | 18 => some "The request included message batch larger than the configured segment size on the server"
  | 19 => some "Messages are rejected since there are fewer in-sync replicas than required"
  | 20 => some "Messages are written to the log, but to fewer in-sync replicas than required"
  | 21 => some "The number of required acks is invalid (should be either -1, 0, or 1)"
  | 22 => some "The provided generation id is not the current generation"
  | 23 => some "The provider group protocol type is incompatible with the other members"
  | 24 => some "The provided group id was empty"
  | 25 => some "The provided member is not known in the current generation"
  | 26 => some "The provided session timeout is outside the allowed range"
  | 27 => some "A rebalance for the group is in progress. Please re-join the group"
  | 28 => some "The provided commit metadata was too large"
  | 29 => some "The client is not authorized to access this topic"
  | 30 => some "The client is not authorized to access this group"
  | 31 => some "The client is not authorized to send this request type"
  | 32 => some "The timestamp of the message is out of acceptable range"
  | 33 => some "The broker does not support the requested SASL mechanism"
  | 34 => some "Request is not valid given the current SASL state"
  | 35 => some "The version of API is not supported"
  | 36 => some "Topic with this name already exists"
  | 37 => some "Number of partitions is invalid"
  | 38 => some "Replication-factor is invalid"
  | 39 => some "Replica assignment is invalid"
  | 40 => some "Configuration is invalid"
  | 41 => some "This is not the correct controller for this cluster"
  | 42 => some "This most likely occurs because of a request being malformed by the client library or the message was sent to an incompatible broker. See the broker logs for more details"
  | 43 => some "The requested operation is not supported by the message format version"
  | 44 => some "Request parameters do not satisfy the configured policy"
  | 45 => some "The broker received an out of order sequence number"
  | 46 => some "The broker received a duplicate sequence number"
  | 47 => some "Producer attempted an operation with an old epoch"
  | 48 => some "The producer attempted a transactional operation in an invalid state"
  | 49 => some "The producer attempted to use a producer id which is not currently assigned to its transactional id"
  | 50 => some "The transaction timeout is larger than the maximum value allowed by the broker (as configured by max.transaction.timeout.ms)"
  | 51 => some "The producer attempted to update a transaction while another concurrent operation on the same transaction was ongoing"
  | 52 => some "The transaction coordinator sending a WriteTxnMarker is no longer the current coordinator for a given producer"
  | 53 => some "Transactional ID authorization failed"
  | 54 => some "Security features are disabled"
  | 55 => some "The broker did not attempt to execute this operation"
  | 56 => some "Disk error when trying to access log file on the disk"
  | 57 => some "The specified log directory is not found in the broker config"
  | 58 => some "SASL Authentication failed"
  | 59 => some "The broker could not locate the producer metadata associated with the Producer ID"
  | 60 => some "A partition reassignment is in progress"
  | 61 => some "Delegation Token feature is not enabled"
  | 62 => some "Delegation Token is not found on server"
  | 63 => some "Specified Principal is not valid Owner/Renewer"
  | 64 => some "Delegation Token requests are not allowed on PLAINTEXT/1-way SSL channels and on delegation token authenticated channels"
  | 65 => some "Delegation Token authorization failed"
  | 66 => some "Delegation Token is expired"
  | 67 => some "Supplied principalType is not supported"
  | 68 => some "The group is not empty"
  | 69 => some "The group id does not exist"
  | 70 => some "The fetch session ID was not found"
  | 71 => some "The fetch session epoch is invalid"
  | 72 => some "There is no listener on the leader broker that matches the listener on which metadata request was processed"
  | 73 => some "Topic deletion is disabled"
  | 74 => some "The leader epoch in the request is older than the epoch on the broker"
  | 75 => some "The leader epoch in the request is newer than the epoch on the broker"
  | 76 => some "The requesting client does not support the compression type of given partition"
  | 77 => some "Broker epoch has changed"
  | 78 => some "The leader high watermark has not caught up from a recent leader election so the offsets cannot be guaranteed to be monotonically increasing"
  | 79 => some "The group member needs to have a valid member id before actually entering a consumer group"
  | 80 => some "The preferred leader was not available"
  | 81 => some "Consumer group The consumer group has reached its max size. already has the configured maximum number of members"
  | 82 => some "The broker rejected this static consumer since another consumer with the same group.instance.id has registered with a different member.id"
  | _ => none

/-- The wording of a signal. -/
def text : Signal → Text
  | endOfInput => "EOF"
  | unexpectedEnd => "unexpected EOF"
  | deadline => "context deadline exceeded"
  | cancelled => "context canceled"
  | kafkaCode code =>
    match kafkaExplanation code with
    | some s => "kafka server: " ++ s
    | none => "Unknown error, how did this happen? Error code = " ++ Decimal.ofInt code
  | outOfBrokers => "kafka: client has run out of available brokers to talk to"
  | notConnected => "kafka: broker not connected"
  | closedClient => "kafka: tried to use a client that was closed"
  | shuttingDown => "kafka: message received by producer in process of shutting down"
  | messageTooLarge => "kafka: message is larger than Consumer.Fetch.Max"
  | alreadyConnected => "kafka: broker connection already initiated"
  | insufficientData => "kafka: insufficient data to decode packet, more bytes expected"
  | invalidPartition => "kafka: partitioner returned an invalid partition index"
  | netOperation => "dial tcp: connection refused"
  | netLookup => "lookup broker: no such host"
  | netClosed => "use of closed network connection"
  | natsTimeout => "nats: timeout"
  | natsNoServers => "nats: no servers available for connection"
  | natsReconnectBuffer => "nats: outbound buffer limit exceeded"
  | natsStale => "nats: stale connection"
  | natsClosed => "nats: connection closed"
  | natsMaxPayload => "nats: maximum payload exceeded"
  | natsBadSubject => "nats: invalid subject"
  | natsAuthorization => "nats: authorization violation"

/-- Signals of the platform itself, whose wording may be passed on to a caller. -/
def isPlatform : Signal → Bool
  | endOfInput | unexpectedEnd | deadline | cancelled => true
  | _ => false

/-- Signals that are failures of a network operation. -/
def isNetwork : Signal → Bool
  | netOperation | netLookup | netClosed | deadline => true
  | _ => false

end Signal

end DetectorStream
