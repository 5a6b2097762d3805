import SealedLink.Asn1.Registry.Basic

/-!
# Names in directories

Attributes, classes and rules of directories of persons, organizations and documents: what the parts
of a distinguished name usually say.

## Main definitions

* `ObjectId.directoryNames` — all of them together
-/

namespace SealedLink.Asn1.ObjectId

/-- Attributes of directory entries. -/
def directoryAttributes : Names :=
  below [2, 5, 4]
    [(0, "OBJECTCLASS"), (1, "ALIASEDOBJECTNAME"), (2, "KNOWLEDGEINFORMATION"), (3, "CN"), (4, "SN"),
     (5, "SERIALNUMBER"), (6, "C"), (7, "L"), (8, "ST"), (9, "STREET"), (10, "O"), (11, "OU"),
     (12, "TITLE"), (13, "DESCRIPTION"), (14, "SEARCHGUIDE"), (15, "BUSINESSCATEGORY"),
     (16, "POSTALADDRESS"), (17, "POSTALCODE"), (18, "POSTOFFICEBOX"),
     (19, "PHYSICALDELIVERYOFFICENAME"), (20, "TELEPHONENUMBER"), (21, "TELEXNUMBER"),
     (22, "TELETEXTERMINALIDENTIFIER"), (23, "FACSIMILETELEPHONENUMBER"), (24, "X121ADDRESS"),
     (25, "INTERNATIONALISDNNUMBER"), (26, "REGISTEREDADDRESS"), (27, "DESTINATIONINDICATOR"),
     (28, "PREFERREDDELIVERYMETHOD"), (29, "PRESENTATIONADDRESS"), (30, "SUPPORTEDAPPLICATIONCONTEXT"),
     (31, "MEMBER"), (32, "OWNER"), (33, "ROLEOCCUPANT"), (34, "SEEALSO"), (35, "USERPASSWORD"),
     (36, "USERCERTIFICATE"), (37, "CACERTIFICATE"), (38, "AUTHORITYREVOCATIONLIST"),
     (39, "CERTIFICATEREVOCATIONLIST"), (40, "CROSSCERTIFICATEPAIR"), (41, "NAME"), (42, "GIVENNAME"),
     (43, "INITIALS"), (44, "GENERATIONQUALIFIER"), (45, "X500UNIQUEIDENTIFIER"), (46, "DNQUALIFIER"),
     (47, "ENHANCEDSEARCHGUIDE"), (48, "PROTOCOLINFORMATION"), (49, "DISTINGUISHEDNAME"),
     (50, "UNIQUEMEMBER"), (51, "HOUSEIDENTIFIER"), (52, "SUPPORTEDALGORITHMS"),
     (53, "DELTAREVOCATIONLIST"), (54, "DMDNAME"), (55, "ID-AT-CLEARANCE"), (65, "PSEUDONYM"),
     (72, "ID-AT-ROLE")]

/-- Attributes that all entries of a collection share. -/
def collectiveAttributes : Names :=
  beneath [2, 5, 4]
    [([7, 1], "C-L"), ([8, 1], "C-ST"), ([9, 1], "C-STREET"), ([10, 1], "C-O"), ([11, 1], "C-OU"),
     ([16, 1], "C-POSTALADDRESS"), ([17, 1], "C-POSTALCODE"), ([18, 1], "C-POSTOFFICEBOX"),
     ([19, 1], "C-PHYSICALDELIVERYOFFICE"), ([20, 1], "C-TELEPHONENUMBER"), ([21, 1], "C-TELEXNUMBER"),
     ([23, 1], "C-FACSIMILETELEPHONENUMBER"), ([25, 1], "C-INTERNATIONALISDNNUMBER")]

/-- Classes of directory entries. -/
def directoryClasses : Names :=
  below [2, 5, 6]
    [(0, "TOP"), (1, "ALIAS"), (2, "COUNTRY"), (3, "LOCALITY"), (4, "ORGANIZATION"),
     (5, "ORGANIZATIONALUNIT"), (6, "PERSON"), (7, "ORGANIZATIONALPERSON"), (8, "ORGANIZATIONALROLE"),
     (9, "GROUPOFNAMES"), (10, "RESIDENTIALPERSON"), (11, "APPLICATIONPROCESS"),
     (12, "APPLICATIONENTITY"), (13, "DSA"), (14, "DEVICE"), (15, "STRONGAUTHENTICATIONUSER"),
     (16, "CERTIFICATIONAUTHORITY"), (17, "GROUPOFUNIQUENAMES"), (18, "USERSECURITYINFORMATION"),
     (19, "CRLDISTRIBUTIONPOINT"), (20, "DMD"), (21, "PKIUSER"), (22, "PKICA"), (23, "DELTACRL")]

/-- Later versions of classes of directory entries. -/
def directoryClassVersions : Names := below [2, 5, 6, 16] [(2, "CERTIFICATIONAUTHORITY-V2")]

/-- Rules by which values of attributes are matched. -/
def matchingRules : Names :=
  below [2, 5, 13]
    [(0, "OBJECTIDENTIFIERMATCH"), (1, "DISTINGUISHEDNAMEMATCH"), (2, "CASEIGNOREMATCH"),
     (3, "CASEIGNOREORDERINGMATCH"), (4, "CASEIGNORESUBSTRINGSMATCH"), (5, "CASEEXACTMATCH"),
     (6, "CASEEXACTORDERINGMATCH"), (7, "CASEEXACTSUBSTRINGSMATCH"), (8, "NUMERICSTRINGMATCH"),
     (9, "NUMERICSTRINGORDERINGMATCH"), (10, "NUMERICSTRINGSUBSTRINGSMATCH"),
     (11, "CASEIGNORELISTMATCH"), (12, "CASEIGNORELISTSUBSTRINGSMATCH"), (13, "BOOLEANMATCH"),
     (14, "INTEGERMATCH"), (15, "INTEGERORDERINGMATCH"), (16, "BITSTRINGMATCH"),
     (17, "OCTETSTRINGMATCH"), (18, "OCTETSTRINGORDERINGMATCH"), (20, "TELEPHONENUMBERMATCH"),
     (21, "TELEPHONENUMBERSUBSTRINGSMATCH"), (22, "PRESENTATIONADDRESSMATCH"),
     (23, "UNIQUEMEMBERMATCH"), (24, "PROTOCOLINFORMATIONMATCH"), (27, "GENERALIZEDTIMEMATCH"),
     (28, "GENERALIZEDTIMEORDERINGMATCH"), (29, "INTEGERFIRSTCOMPONENTMATCH"),
     (30, "OBJECTIDENTIFIERFIRSTCOMPONENTMATCH"), (31, "DIRECTORYSTRINGFIRSTCOMPONENTMATCH"),
     (32, "WORDMATCH"), (33, "KEYWORDMATCH"), (34, "CERTIFICATEEXACTMATCH"), (35, "CERTIFICATEMATCH"),
     (36, "CERTIFICATEPAIREXACTMATCH"), (37, "CERTIFICATEPAIRMATCH"), (38, "CERTIFICATELISTEXACTMATCH"),
     (39, "CERTIFICATELISTMATCH"), (40, "ALGORITHMIDENTIFIERMATCH"), (41, "STOREDPREFIXMATCH")]

/-- Rules by which ASCII values of attributes are matched. -/
def asciiMatchingRules : Names :=
  below [1, 3, 6, 1, 4, 1, 1466, 109, 114]
    [(1, "CASEEXACTIA5MATCH"), (2, "CASEIGNOREIA5MATCH"), (3, "CASEIGNOREIA5SUBSTRINGSMATCH")]

/-- Rules by which components of values are matched. -/
def componentMatchingRules : Names :=
  below [1, 2, 36, 79672281, 1, 13]
    [(2, "COMPONENTFILTERMATCH"), (3, "RDNMATCH"), (5, "PRESENTMATCH"), (6, "ALLCOMPONENTSMATCH"),
     (7, "DIRECTORYCOMPONENTSMATCH")]

/-- Classes of administrative entries. -/
def subentryClasses : Names := below [2, 5, 17] [(0, "SUBENTRY"), (2, "COLLECTIVEATTRIBUTESUBENTRY")]

/-- Attributes that a directory keeps by itself. -/
def operationalAttributes : Names :=
  below [2, 5, 18]
    [(1, "CREATETIMESTAMP"), (2, "MODIFYTIMESTAMP"), (3, "CREATORSNAME"), (4, "MODIFIERSNAME"),
     (5, "ADMINISTRATIVEROLE"), (6, "SUBTREESPECIFICATION"), (7, "COLLECTIVEEXCLUSIONS"),
     (10, "SUBSCHEMASUBENTRY"), (12, "COLLECTIVEATTRIBUTESUBENTRIES")]

/-- Classes of schema entries. -/
def schemaClasses : Names := below [2, 5, 20] [(1, "SUBSCHEMA")]

/-- Attributes of schema entries. -/
def schemaAttributes : Names :=
  below [2, 5, 21]
    [(1, "DITSTRUCTURERULES"), (2, "DITCONTENTRULES"), (4, "MATCHINGRULES"), (5, "ATTRIBUTETYPES"),
     (6, "OBJECTCLASSES"), (7, "NAMEFORMS"), (8, "MATCHINGRULEUSE"), (9, "STRUCTURALOBJECTCLASS"),
     (10, "GOVERNINGSTRUCTURERULE")]

/-- Roles of administrative areas. -/
def administrativeRoles : Names :=
  below [2, 5, 23]
    [(1, "AUTONOMOUSAREA"), (2, "ACCESSCONTROLSPECIFICAREA"), (3, "ACCESSCONTROLINNERAREA"),
     (4, "SUBSCHEMAADMINSPECIFICAREA"), (5, "COLLECTIVEATTRIBUTESPECIFICAREA"),
     (6, "COLLECTIVEATTRIBUTEINNERAREA")]

/-- Attributes of the entries of a directory of persons and documents. -/
def pilotAttributes : Names :=
  below [0, 9, 2342, 19200300, 100, 1]
    [(1, "UID"), (2, "TEXTENCODEDORADDRESS"), (3, "MAIL"), (4, "INFO"), (5, "DRINK"), (6, "ROOMNUMBER"),
     (7, "PHOTO"), (8, "USERCLASS"), (9, "HOST"), (10, "MANAGER"), (11, "DOCUMENTIDENTIFIER"),
     (12, "DOCUMENTTITLE"), (13, "DOCUMENTVERSION"), (14, "DOCUMENTAUTHOR"), (15, "DOCUMENTLOCATION"),
     (20, "HOMEPHONE"), (21, "SECRETARY"), (22, "OTHERMAILBOX"), (23, "LASTMODIFIEDTIME"),
     (24, "LASTMODIFIEDBY"), (25, "DC"), (26, "ARECORD"), (27, "MDRECORD"), (28, "MXRECORD"),
     (29, "NSRECORD"), (30, "SOARECORD"), (31, "CNAMERECORD"), (37, "ASSOCIATEDDOMAIN"),
     (38, "ASSOCIATEDNAME"), (39, "HOMEPOSTALADDRESS"), (40, "PERSONALTITLE"), (41, "MOBILE"),
     (42, "PAGER"), (43, "CO"), (44, "UNIQUEIDENTIFIER"), (45, "ORGANIZATIONALSTATUS"),
     (46, "JANETMAILBOX"), (47, "MAILPREFERENCEOPTION"), (48, "BUILDINGNAME"), (49, "DSAQUALITY"),
     (50, "SINGLELEVELQUALITY"), (51, "SUBTREEMINIMUMQUALITY"), (52, "SUBTREEMAXIMUMQUALITY"),
     (53, "PERSONALSIGNATURE"), (54, "DITREDIRECT"), (55, "AUDIO"), (56, "DOCUMENTPUBLISHER"),
     (60, "JPEGPHOTO")]

/-- Classes of the entries of a directory of persons and documents. -/
def pilotClasses : Names :=
  below [0, 9, 2342, 19200300, 100, 4]
    [(3, "PILOTOBJECT"), (4, "PILOTPERSON"), (5, "ACCOUNT"), (6, "DOCUMENT"), (7, "ROOM"),
     (8, "DOCUMENTSERIES"), (13, "DOMAIN"), (14, "RFC822LOCALPART"), (15, "DNSDOMAIN"),
     (17, "DOMAINRELATEDOBJECT"), (18, "FRIENDLYCOUNTRY"), (19, "SIMPLESECURITYOBJECT"),
     (20, "PILOTORGANIZATION"), (21, "PILOTDSA"), (22, "QUALITYLABELLEDDATA")]

/-- Attributes of persons in an organization. -/
def personAttributes : Names :=
  below [2, 16, 840, 1, 113730, 3, 1]
    [(1, "CARLICENSE"), (2, "DEPARTMENTNUMBER"), (3, "EMPLOYEENUMBER"), (4, "EMPLOYEETYPE"),
     (34, "REF"), (39, "PREFERREDLANGUAGE"), (40, "USERSMIMECERTIFICATE"), (216, "USERPKCS12"),
     (241, "DISPLAYNAME")]

/-- Classes of persons in an organization and of references. -/
def personClasses : Names := below [2, 16, 840, 1, 113730, 3, 2] [(2, "INETORGPERSON"), (6, "REFERRAL")]

/-- Attributes of a directory server. -/
def serverAttributes : Names :=
  below [1, 3, 6, 1, 4, 1, 1466, 101, 120]
    [(5, "NAMINGCONTEXTS"), (6, "ALTSERVER"), (7, "SUPPORTEDEXTENSION"), (13, "SUPPORTEDCONTROL"),
     (14, "SUPPORTEDSASLMECHANISMS"), (15, "SUPPORTEDLDAPVERSION"), (16, "LDAPSYNTAXES"),
     (111, "EXTENSIBLEOBJECT")]

/-- The list of features of a directory server. -/
def serverFeatures : Names := below [1, 3, 6, 1, 4, 1, 4203, 1, 3] [(5, "SUPPORTEDFEATURES")]

/-- Entries with a limited time to live. -/
def dynamicEntries : Names :=
  below [1, 3, 6, 1, 4, 1, 1466, 101, 119]
    [(2, "DYNAMICOBJECT"), (3, "ENTRYTTL"), (4, "DYNAMICSUBTREES")]

/-- Entries named after domains. -/
def domainEntries : Names := below [1, 3, 6, 1, 4, 1, 1466] [(344, "DCOBJECT"), (345, "DOMAINNAMEFORM")]

/-- Unique identifiers of entries and how they are matched. -/
def entryUuid : Names :=
  below [1, 3, 6, 1, 1, 16]
    [(2, "UUIDMATCH"), (3, "UUIDORDERINGMATCH"), (4, "ENTRYUUID")]

/-- Names of entries as attributes of their own. -/
def entryNames : Names := below [1, 3, 6, 1, 1] [(20, "ENTRYDN")]

/-- The class of entries with a user name. -/
def userClasses : Names := below [1, 3, 6, 1, 1, 3] [(1, "UIDOBJECT")]

/-- Labeled addresses of resources. -/
def labeledAddresses : Names :=
  beneath [1, 3, 6, 1, 4, 1, 250]
    [([1, 57], "LABELEDURI"), ([3, 15], "LABELEDURIOBJECT")]

/-- The names in directories. -/
def directoryNames : Names :=
  directoryAttributes ++ collectiveAttributes ++ directoryClasses ++ directoryClassVersions ++
    matchingRules ++ asciiMatchingRules ++ componentMatchingRules ++ subentryClasses ++
    operationalAttributes ++ schemaClasses ++ schemaAttributes ++ administrativeRoles ++
    pilotAttributes ++ pilotClasses ++ personAttributes ++ personClasses ++ serverAttributes ++
    serverFeatures ++ dynamicEntries ++ domainEntries ++ entryUuid ++ entryNames ++ userClasses ++
    labeledAddresses

end SealedLink.Asn1.ObjectId
