import SealedLink.Asn1.Registry.Basic

/-!
# Names in protected messages

Contents, attributes and algorithms of signed and encrypted messages.

## Main definitions

* `ObjectId.messageNames` — all of them together
-/

namespace SealedLink.Asn1.ObjectId

/-- The root and the branches of the identifiers for messages. -/
def messageRoots : Names :=
  beneath [1, 2, 840]
    [([113549], "RSADSI"), ([113549, 1, 1], "PKCS-1"), ([113549, 1, 9], "PKCS-9"),
     ([113549, 2], "DIGESTALGORITHM")]

/-- Contents of protected messages. -/
def messageContents : Names :=
  below [1, 2, 840, 113549, 1, 7]
    [(1, "ID-DATA"), (2, "ID-SIGNEDDATA"), (3, "ID-ENVELOPEDDATA"), (5, "ID-DIGESTEDDATA"),
     (6, "ID-ENCRYPTEDDATA")]

/-- Attributes of protected messages. -/
def messageAttributes : Names :=
  below [1, 2, 840, 113549, 1, 9]
    [(1, "EMAIL"), (3, "ID-CONTENTTYPE"), (4, "ID-MESSAGEDIGEST"), (5, "ID-SIGNINGTIME"),
     (6, "ID-COUNTERSIGNATURE"), (14, "ID-EXTENSIONREQ"), (15, "SMIMECAPABILITIES"), (16, "ID-SMIME")]

/-- The branches of the identifiers for protected mail. -/
def mailBranches : Names :=
  row [1, 2, 840, 113549, 1, 9, 16] 0
    ["ID-MOD", "ID-CT", "ID-AA", "ID-ALG", "ID-CD", "ID-SPQ", "ID-CTI", "ID-TSP", "ID-SKD", "ID-STI",
     "ID-EIT", "ID-CAP", "ID-PSKC"]

/-- Contents of protected mail. -/
def mailContents : Names :=
  below [1, 2, 840, 113549, 1, 9, 16, 1]
    [(1, "ID-CT-RECEIPT"), (2, "ID-CT-AUTHDATA"), (6, "ID-CT-CONTENTINFO"), (9, "ID-CT-COMPRESSEDDATA"),
     (10, "ID-CT-SCVP-CERTVALREQUEST"), (11, "ID-CT-SCVP-CERTVALRESPONSE"),
     (12, "ID-CT-SCVP-VALPOLREQUEST"), (13, "ID-CT-SCVP-VALPOLRESPONSE"), (16, "ID-CT-FIRMWAREPACKAGE"),
     (17, "ID-CT-FIRMWARELOADRECEIPT"), (18, "ID-CT-FIRMWARELOADERROR"),
     (19, "ID-CT-CONTENTCOLLECTION"), (20, "ID-CT-CONTENTWITHATTRS"), (21, "ID-CT-ENCKEYWITHID"),
     (23, "ID-CT-AUTHENVELOPEDDATA")]

/-- Attributes of protected mail. -/
def mailAttributes : Names :=
  below [1, 2, 840, 113549, 1, 9, 16, 2]
    [(1, "ID-AA-RECEIPTREQUEST"), (2, "ID-AA-SECURITYLABEL"), (3, "ID-AA-MLEXPANDHISTORY"),
     (4, "ID-AA-CONTENTHINT"), (5, "ID-AA-MSGSIGDIGEST"), (7, "ID-AA-CONTENTIDENTIFIER"),
     (9, "ID-AA-EQUIVALENTLABELS"), (10, "ID-AA-CONTENTREFERENCE"), (11, "ID-AA-ENCRYPKEYPREF"),
     (12, "ID-AA-SIGNINGCERTIFICATE"), (34, "ID-AA-CMC-UNSIGNEDDATA"), (35, "ID-AA-FIRMWAREPACKAGEID"),
     (36, "ID-AA-TARGETHARDWAREIDS"), (37, "ID-AA-DECRYPTKEYID"), (38, "ID-AA-IMPLCRYPTOALGS"),
     (39, "ID-AA-WRAPPEDFIRMWAREKEY"), (40, "ID-AA-COMMUNITYIDENTIFIERS"),
     (42, "ID-AA-FIRMWAREPACKAGEINFO"), (43, "ID-AA-IMPLCOMPRESSALGS"), (46, "ID-AA-BINARYSIGNINGTIME"),
     (47, "ID-AA-SIGNINGCERTIFICATEV2"), (49, "ID-AA-ER-INTERNAL"), (50, "ID-AA-ER-EXTERNAL"),
     (51, "ID-AA-MULTIPLESIGNATURES")]

/-- Algorithms of protected mail. -/
def mailAlgorithms : Names :=
  below [1, 2, 840, 113549, 1, 9, 16, 3]
    [(5, "ID-ALG-ESDH"), (6, "ID-ALG-CMS3DESWRAP"), (7, "ID-ALG-CMSRC2WRAP"),
     (8, "ID-ALG-ZLIBCOMPRESS"), (10, "ID-ALG-SSDH")]

/-- Messages about groups with a shared key. -/
def keyGroupMessages : Names :=
  below [1, 2, 840, 113549, 1, 9, 16, 8]
    [(1, "ID-SKD-GLUSEKEK"), (2, "ID-SKD-GLDELETE"), (3, "ID-SKD-GLADDMEMBER"),
     (4, "ID-SKD-GLDELETEMEMBER"), (5, "ID-SKD-GLREKEY"), (6, "ID-SKD-GLADDOWNER"),
     (7, "ID-SKD-GLREMOVEOWNER"), (8, "ID-SKD-GLKCOMPROMISE"), (9, "ID-SKD-GLKREFRESH"),
     (11, "ID-SKD-GLAQUERYREQUEST"), (12, "ID-SKD-GLAQUERYRESPONSE"), (13, "ID-SKD-GLPROVIDECERT"),
     (14, "ID-SKD-GLMANAGECERT"), (15, "ID-SKD-GLKEY")]

/-- Capabilities of mail programs. -/
def mailCapabilities : Names :=
  below [1, 2, 840, 113549, 1, 9, 16, 11]
    [(1, "ID-CAP-PREFERBINARYINSIDE")]

/-- The names in protected messages. -/
def messageNames : Names :=
  messageRoots ++ messageContents ++ messageAttributes ++ mailBranches ++ mailContents ++
    mailAttributes ++ mailAlgorithms ++ keyGroupMessages ++ mailCapabilities

end SealedLink.Asn1.ObjectId
